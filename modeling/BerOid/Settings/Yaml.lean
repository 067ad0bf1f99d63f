import BerOid.Settings.Literal
import BerOid.Settings.Numeral

/-!
# YAML files

Of YAML only mappings in plain lines are read: a line for every key, with its scalar behind a colon, and one level of indented lines
for the keys of a nested mapping. Blank lines and comment lines are skipped. Plain scalars are resolved by their form: truth values,
null, whole numbers, decimals; every other plain scalar is a text. What else the format has, such as quoted keys, mappings in braces,
tags and anchors, has no meaning here, and nothing is refused.
-/

namespace BerOid.Settings.Yaml

/-- A line without the blanks at its two ends, and without the carriage return of a line end. -/
def trim (cs : List Char) : List Char := Text.trimBoth (fun c => isBlank c || c == '\r') cs

/-- A digit or an underscore. -/
def isGroupChar (c : Char) : Bool := Text.isAsciiDigit c || c == '_'

/-- A whole number: decimal, or in base two, eight or sixteen behind a mark. Underscores between the digits do not matter. -/
def integer? (cs : List Char) : Option Value :=
  if cs.head? = some '_' then none
  else
    let (negative, body) := Text.splitSign cs
    let read := match body with
      | '0' :: 'b' :: digits => wholeIn? 2 (dropUnderscores digits)
      | '0' :: 'o' :: digits => wholeIn? 8 (dropUnderscores digits)
      | '0' :: 'x' :: digits => wholeIn? 16 (dropUnderscores digits)
      | digits => wholeIn? 10 (dropUnderscores digits)
    read.map (signedInteger negative)

/-- An exponent behind its mark. Its sign may be required. -/
def exponent? (signNeeded : Bool) : List Char → Option Int
  | [] => some 0
  | mark :: rest =>
    let (negative, digits) := Text.splitSign rest
    if (mark = 'e' ∨ mark = 'E') ∧ (!signNeeded || digits.length < rest.length) then
      (wholeIn? 10 digits).map fun n => if negative then -(n : Int) else (n : Int)
    else none

/-- A decimal: digits with a point or an exponent, a point with digits behind it, or a special value. -/
def decimal? (cs : List Char) : Option Value :=
  let (negative, body) := Text.splitSign cs
  let name := String.ofList body
  if [".inf", ".Inf", ".INF"].contains name then some (.real (.infinite negative))
  else if [".nan", ".NaN", ".NAN"].contains (String.ofList cs) then some (.real .nan)
  else
    let (whole, rest) := cutAt (fun c => !isGroupChar c) body
    if whole.head? = some '_' then none
    else match whole, rest with
      | [], '.' :: rest =>
        let (fraction, rest) := cutAt (fun c => !isGroupChar c) rest
        if (dropUnderscores fraction).isEmpty then none
        else (exponent? true rest).map fun e => DecimalParts.value ⟨[], dropUnderscores fraction, e⟩ negative
      | _ :: _, '.' :: rest =>
        let (fraction, rest) := cutAt (fun c => !isGroupChar c) rest
        (exponent? false rest).map fun e =>
          DecimalParts.value ⟨dropUnderscores whole, dropUnderscores fraction, e⟩ negative
      | _ :: _, _ :: _ => (exponent? false rest).map fun e => DecimalParts.value ⟨dropUnderscores whole, [], e⟩ negative
      | _, _ => none

/-- The value of a plain scalar. -/
def ofPlain (cs : List Char) : Value :=
  let s := String.ofList cs
  if ["true", "True", "TRUE"].contains s then .boolean true
  else if ["false", "False", "FALSE"].contains s then .boolean false
  else if ["", "~", "null", "Null", "NULL"].contains s then .null
  else (decimal? cs <|> integer? cs).getD (.text s)

/-- The single-character escapes of a text between double quotes. -/
def escapes : List (Char × Char) :=
  [('"', '"'), ('\\', '\\'), ('/', '/'), (' ', ' '), ('\t', '\t'), ('0', '\x00'), ('a', '\x07'), ('b', '\x08'), ('t', '\t'),
    ('n', '\n'), ('v', '\x0b'), ('f', '\x0c'), ('r', '\r'), ('e', '\x1b'), ('N', '\u0085'), ('_', '\u00a0'),
    ('L', '\u2028'), ('P', '\u2029')]

/-- Reads up to the closing single quote; a quote inside is written twice. -/
def singleQuoted? : List Char → Option (List Char × List Char)
  | [] => none
  | '\'' :: '\'' :: rest => (singleQuoted? rest).map fun (text, rest) => ('\'' :: text, rest)
  | '\'' :: rest => some ([], rest)
  | c :: rest => (singleQuoted? rest).map fun (text, rest) => (c :: text, rest)

/-- A scalar between quotes, and what follows it. -/
def quoted? : List Char → Option (Value × List Char)
  | '\'' :: rest => (singleQuoted? rest).map fun (text, rest) => (.text (String.ofList text), rest)
  | '"' :: rest => (doubleQuoted? (fun _ => true) escapes rest).map fun (text, rest) => (.text (String.ofList text), rest)
  | _ => none

/-- An item of a list that is no list itself: between quotes, or plain up to a comma or bracket. -/
def item? (cs : List Char) : Option (Value × List Char) :=
  match cs with
  | c :: _ =>
    if c = '\'' ∨ c = '"' then quoted? cs
    else
      let (plain, rest) := cutAt (fun c => c == ',' || c == ']' || c == '[') cs
      if (trim plain).isEmpty then none else some (ofPlain (trim plain), rest)
  | [] => none

/-- A plain scalar up to a comment, which a blank precedes. -/
def beforeComment : List Char → List Char
  | [] => []
  | c :: '#' :: rest => if isBlank c then [] else c :: beforeComment ('#' :: rest)
  | c :: rest => c :: beforeComment rest

/-- Whether nothing but blanks and a comment follows a scalar. -/
def isBlankTail (cs : List Char) : Bool :=
  match trim cs with
  | [] => true
  | c :: _ => c == '#'

/-- The value of what stands behind a colon. -/
def ofScalar (text : List Char) : Value :=
  let cs := trim text
  let read := match cs with
    | '[' :: rest => bracketed? isBlank item? rest
    | cs => quoted? cs
  match read with
  | some (v, rest) => if isBlankTail rest then v else ofPlain (trim (beforeComment cs))
  | none => if cs.head? = some '#' then .null else ofPlain (trim (beforeComment cs))

/-- The key and the scalar text of a line; a colon ends the key where a blank or the end of the line follows it. -/
def splitKey? : List Char → Option (List Char × List Char)
  | [] => none
  | [c] => if c = ':' then some ([], []) else none
  | c :: d :: rest =>
    if c = ':' ∧ isBlank d then some ([], d :: rest)
    else (splitKey? (d :: rest)).map fun (key, scalar) => (c :: key, scalar)

/-- What a line says: nothing, or an entry of the file or of the nested mapping that is open. -/
inductive Line where
  | nothing
  | entry (nested : Bool) (key : String) (value : Value)

/-- Reads a line. -/
def lineOf (cs : List Char) : Line :=
  let body := trim cs
  if body.isEmpty || body.head? == some '#' then .nothing
  else match splitKey? body with
    | some (key, scalar) => .entry (cs.head?.any isBlank) (String.ofList (trim key)) (ofScalar scalar)
    | none => .nothing

/-- Adds a line to the entries read so far. A nested entry goes into the mapping of the last key, which is opened if its scalar was
empty. -/
def addLine (entries : List (String × Value)) : Line → List (String × Value)
  | .nothing => entries
  | .entry false key value => entries ++ [(key, value)]
  | .entry true key value =>
    match entries.getLast? with
    | some (last, .null) => entries.dropLast ++ [(last, .mapping [(key, value)])]
    | some (last, .mapping nested) => entries.dropLast ++ [(last, .mapping (nested ++ [(key, value)]))]
    | _ => entries

/-- The entries of a file, in order. -/
def parse (text : String) : List (String × Value) :=
  (text.toList.splitOn '\n').foldl (fun entries line => addLine entries (lineOf line)) []

end BerOid.Settings.Yaml
