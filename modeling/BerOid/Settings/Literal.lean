import BerOid.Text.Hex
import BerOid.Value

/-!
# Quoted texts and bracketed lists

What the two formats of settings share: the blanks within a line, a text between double quotes with backslash escapes, and a list
between brackets, whose items are separated by commas and may be lists again. What an item looks like is left to the format.
-/

namespace BerOid.Settings

/-- Space and tab. -/
def isBlank (c : Char) : Bool := c == ' ' || c == '\t'

/-- The character with a number written in hex. -/
def charOfHex? (digits : List Char) : Option Char := do
  let n ← digits.foldlM (fun n c => (Text.hexValue? c).map (16 * n + ·)) 0
  if Nat.isValidChar n then some (Char.ofNat n) else none

/-- Reads up to the closing double quote and gives the text and what follows. Numbers in escapes have four or eight digits; other
escapes are single characters, given by a table. Characters that are not legal as themselves end the reading. -/
def doubleQuoted? (legal : Char → Bool) (escapes : List (Char × Char)) : List Char → Option (List Char × List Char)
  | [] => none
  | '"' :: rest => some ([], rest)
  | '\\' :: 'u' :: a :: b :: c :: d :: rest => do
    let x ← charOfHex? [a, b, c, d]
    let (text, rest) ← doubleQuoted? legal escapes rest
    return (x :: text, rest)
  | '\\' :: 'U' :: a :: b :: c :: d :: e :: f :: g :: h :: rest => do
    let x ← charOfHex? [a, b, c, d, e, f, g, h]
    let (text, rest) ← doubleQuoted? legal escapes rest
    return (x :: text, rest)
  | '\\' :: c :: rest => do
    let x ← escapes.lookup c
    let (text, rest) ← doubleQuoted? legal escapes rest
    return (x :: text, rest)
  | c :: rest => do
    if c = '\\' || !legal c then none
    let (text, rest) ← doubleQuoted? legal escapes rest
    return (c :: text, rest)

/-- Reads the items of a list up to its closing bracket and gives what follows. A comma may stand before the bracket. The first
argument bounds the number of items and brackets that are read. -/
def listItems? (blank : Char → Bool) (scalar? : List Char → Option (Value × List Char)) :
    Nat → List Char → Option (List Value × List Char)
  | 0, _ => none
  | fuel + 1, cs =>
    let item := match cs.dropWhile blank with
      | ']' :: rest => some (none, rest)
      | '[' :: rest => (listItems? blank scalar? fuel rest).map fun (items, rest) => (some (.list items), rest)
      | cs => (scalar? cs).map fun (v, rest) => (some v, rest)
    match item with
    | none => none
    | some (none, rest) => some ([], rest)
    | some (some v, rest) =>
      match rest.dropWhile blank with
      | ',' :: rest => (listItems? blank scalar? fuel rest).map fun (items, rest) => (v :: items, rest)
      | ']' :: rest => some ([v], rest)
      | _ => none

/-- Reads a list whose opening bracket has been read. Every item and every bracket takes a character, so the length of the text bounds
their number. -/
def bracketed? (blank : Char → Bool) (scalar? : List Char → Option (Value × List Char)) (cs : List Char) :
    Option (Value × List Char) :=
  (listItems? blank scalar? (cs.length + 1) cs).map fun (items, rest) => (.list items, rest)

end BerOid.Settings
