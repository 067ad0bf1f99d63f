import BerOid.Settings.Literal
import BerOid.Settings.Numeral

/-!
# TOML values

The value of an environment variable is read as a TOML value: a truth value, a whole number, a decimal, a quoted text or a list.
Blanks and a comment may stand behind it. A text that is no such value stands for itself; dates and tables are none here.
-/

namespace BerOid.Settings.Toml

/-- The blanks that may stand between the items of a list. -/
def isListBlank (c : Char) : Bool := isBlank c || c == '\n'

/-- The characters that end a word. -/
def endsWord (c : Char) : Bool := isListBlank c || c == ',' || c == ']' || c == '#'

/-- Whether a text is digits with single underscores between them. -/
def isGrouped (isDigit : Char → Bool) : List Char → Bool
  | [] => false
  | [c] => isDigit c
  | c :: '_' :: rest => isDigit c && isGrouped isDigit rest
  | c :: rest => isDigit c && isGrouped isDigit rest

/-- Whether a text is decimal digits in groups. -/
def isDecimal (cs : List Char) : Bool := isGrouped Text.isAsciiDigit cs

/-- Whether a text is the whole part of a number: decimal digits without a leading zero. -/
def isWhole (cs : List Char) : Bool := isDecimal cs && (cs.head? != some '0' || cs.length == 1)

/-- A number in base sixteen, eight or two, which has a mark and no sign. -/
def marked? : List Char → Option Value
  | '0' :: mark :: digits => do
    let base ← ([('x', 16), ('o', 8), ('b', 2)] : List (Char × Nat)).lookup mark
    if isGrouped (fun c => (digitIn? base c).isSome) digits then
      (wholeIn? base (dropUnderscores digits)).map (.integer ·)
    else none
  | _ => none

/-- The exponent behind a decimal: nothing, or a mark, a sign and digits. -/
def exponent? : List Char → Option Int
  | [] => some 0
  | mark :: rest =>
    if mark = 'e' ∨ mark = 'E' then
      let (negative, digits) := Text.splitSign rest
      if isDecimal digits then
        let n : Nat := Text.decimalNumber (dropUnderscores digits)
        some (if negative then -(n : Int) else n)
      else none
    else none

/-- A number without its sign: a whole number, a decimal with a fraction or an exponent, or a special value. -/
def unsigned? (negative : Bool) (cs : List Char) : Option Value :=
  if cs = ['i', 'n', 'f'] then some (.real (.infinite negative))
  else if cs = ['n', 'a', 'n'] then some (.real .nan)
  else
    let (whole, rest) := cutAt (fun c => c == '.' || c == 'e' || c == 'E') cs
    if !isWhole whole then none
    else match rest with
      | [] => some (signedInteger negative (Text.decimalNumber (dropUnderscores whole)))
      | '.' :: rest =>
        let (fraction, rest) := cutAt (fun c => c == 'e' || c == 'E') rest
        if isDecimal fraction then
          (exponent? rest).map fun e => DecimalParts.value ⟨dropUnderscores whole, dropUnderscores fraction, e⟩ negative
        else none
      | rest => (exponent? rest).map fun e => DecimalParts.value ⟨dropUnderscores whole, [], e⟩ negative

/-- A number. -/
def number? : List Char → Option Value
  | '-' :: cs => unsigned? true cs
  | '+' :: cs => unsigned? false cs
  | cs => marked? cs <|> unsigned? false cs

/-- A value written as one word. -/
def word? (cs : List Char) : Option Value :=
  if cs = ['t', 'r', 'u', 'e'] then some (.boolean true)
  else if cs = ['f', 'a', 'l', 's', 'e'] then some (.boolean false)
  else number? cs

/-- The single-character escapes of a text between double quotes. -/
def escapes : List (Char × Char) :=
  [('b', '\x08'), ('t', '\t'), ('n', '\n'), ('f', '\x0c'), ('r', '\r'), ('"', '"'), ('\\', '\\')]

/-- Whether a character may stand in a quoted text or a comment as itself: controls may not, the tab excepted. -/
def isLegal (c : Char) : Bool := (32 ≤ c.toNat || c == '\t') && c.toNat != 127

/-- A value that is no list, and what follows it. -/
def scalar? : List Char → Option (Value × List Char)
  | '"' :: rest =>
    (doubleQuoted? isLegal escapes rest).map fun (text, rest) => (.text (String.ofList text), rest)
  | '\'' :: rest =>
    match cutAt (· == '\'') rest with
    | (text, _ :: rest) => if text.all isLegal then some (.text (String.ofList text), rest) else none
    | (_, []) => none
  | cs =>
    let (word, rest) := cutAt endsWord cs
    (word? word).map (·, rest)

/-- Whether nothing but blanks, comments and empty lines follows a value. -/
def isBlankTail (inComment : Bool) : List Char → Bool
  | [] => true
  | c :: rest =>
    if c = '\n' then isBlankTail false rest
    else if inComment then isLegal c && isBlankTail true rest
    else if isBlank c then isBlankTail false rest
    else c == '#' && isBlankTail true rest

/-- The value of a text as a whole. -/
def value? (cs : List Char) : Option Value :=
  let read := match cs.dropWhile isBlank with
    | '[' :: rest => bracketed? isListBlank scalar? rest
    | cs => scalar? cs
  match read with
  | some (v, rest) => if isBlankTail false rest then some v else none
  | none => none

/-- The value that a variable's text stands for. Truth values may be capitalised. -/
def ofVariable (text : String) : Value :=
  let cs := text.toList
  let trimmed := Text.trimBoth Text.isBlank cs
  if trimmed = ['T', 'r', 'u', 'e'] then .boolean true
  else if trimmed = ['F', 'a', 'l', 's', 'e'] then .boolean false
  else (value? cs).getD (.text text)

end BerOid.Settings.Toml
