import BerOid.Number.IntegerText
import BerOid.Oid
import BerOid.Settings

/-!
# Options

What the library takes from the settings: whether encoding is strict, the limit for arcs, and the section for logging. The limit may be
given as anything that can be read as an integer, but is never above the greatest arc.
-/

namespace BerOid.Settings

/-- Whether encoding is strict; it is unless a setting says otherwise. -/
def strictRoot (s : Settings) : Bool := ((s.get? "strict_root").getD (.boolean true)).isTruthy

/-- Why a setting gives no limit. -/
inductive LimitFault where
  | notAnInteger (raw : Value)
  | infinite
  | outOfRange (n : Int)

/-- The wording of a fault. -/
def LimitFault.message : LimitFault → String
  | notAnInteger raw => wording raw.integers ("max_arc must be an integer, got " ++ raw.shown)
  | infinite => "cannot convert float infinity to integer"
  | outOfRange n => wording [n] ("max_arc must be within 0.." ++ toString Oid.maxArc ++ ", got " ++ toString n)

/-- The integer a value stands for: truth values count as zero and one, the fraction of a number is cut off, a text is read. -/
def integerOf : Value → Except LimitFault Int
  | .boolean b => .ok (if b then 1 else 0)
  | .integer n => .ok n
  | .real (.finite negative m e) => .ok (Binary64.trunc negative m e)
  | .real (.infinite _) => .error .infinite
  | .text s => match readInteger? s with
    | some n => .ok n
    | none => .error (.notAnInteger (.text s))
  | raw => .error (.notAnInteger raw)

/-- The limit for arcs; without a setting it is the greatest arc. -/
def maxArc (s : Settings) : Except LimitFault Nat :=
  match integerOf ((s.get? "max_arc").getD (.integer Oid.maxArc)) with
  | .error fault => .error fault
  | .ok n => if 0 ≤ n ∧ n ≤ Oid.maxArc then .ok n.toNat else .error (.outOfRange n)

/-- Checks every option that can be wrong. -/
def validate (s : Settings) : Except LimitFault Unit := (maxArc s).map fun _ => ()

/-- Why the section for logging is no mapping. -/
inductive SectionFault where
  | notIterable (kind : Value.Kind)
  | notASequence (index : Nat)
  | wrongLength (index length : Nat)
  | unhashable (kind : Value.Kind)
  | unshowableKey
  deriving DecidableEq

/-- The wording of a fault. -/
def SectionFault.message : SectionFault → String
  | notIterable kind => "'" ++ kind.name ++ "' object is not iterable"
  | notASequence index =>
    "cannot convert dictionary update sequence element #" ++ toString index ++ " to a sequence"
  | wrongLength index length =>
    "dictionary update sequence element #" ++ toString index ++ " has length " ++ toString length ++ "; 2 is required"
  | unhashable kind => "unhashable type: '" ++ kind.name ++ "'"
  | unshowableKey => digitsMessage

/-- Whether a value can be a key: lists and mappings cannot. -/
def isKey : Value → Bool
  | .list _ | .mapping _ => false
  | _ => true

/-- The key and value that an item of a list stands for: a text of two characters, a list of two items, or a mapping of two keys. -/
def pairOf (index : Nat) : Value → Except SectionFault (Value × Value)
  | .text s => match s.toList with
    | [key, v] => .ok (.text (String.ofList [key]), .text (String.ofList [v]))
    | cs => .error (.wrongLength index cs.length)
  | .list items => match items with
    | [key, v] => if isKey key then .ok (key, v) else .error (.unhashable key.kind)
    | items => .error (.wrongLength index items.length)
  | .mapping entries => match entries with
    | [(key, _), (v, _)] => .ok (.text key, .text v)
    | entries => .error (.wrongLength index entries.length)
  | _ => .error (.notASequence index)

/-- The pairs that the items of a list stand for, the index of the first item given. -/
def pairsOf (index : Nat) : List Value → Except SectionFault (List (Value × Value))
  | [] => .ok []
  | item :: rest => do
    let pair ← pairOf index item
    return pair :: (← pairsOf (index + 1) rest)

/-- Entries of which no two have the same key; of those that have, the later one wins in the place of the first. -/
def merge {κ : Type} (isSame : κ → κ → Bool) (entries : List (κ × Value)) : List (κ × Value) :=
  entries.foldl
    (fun done (key, v) =>
      if done.any fun (k, _) => isSame k key then done.map fun (k, old) => (k, if isSame k key then v else old) else done ++ [(key, v)])
    []

/-- Whether a key has a text. -/
def hasText (key : Value) : Bool := key.integers.all isShowable

/-- A key as text. -/
def keyText : Value → String
  | .text s => s
  | v => v.shown

/-- Entries with their keys in lower case; of keys that become equal the later one wins. -/
def withLowerKeys (entries : List (String × Value)) : List (String × Value) :=
  merge (· == ·) (entries.map fun (key, v) => (Text.lower key, v))

/-- The mapping that a value for the section stands for: a mapping as it is, and a list by the pairs that its items stand for. What
counts as false stands for none. -/
def sectionOf (v : Value) : Except SectionFault (List (String × Value)) :=
  if !v.isTruthy then .ok []
  else match v with
    | .mapping entries => .ok (withLowerKeys entries)
    | .list items => match pairsOf 0 items with
      | .error fault => .error fault
      | .ok pairs =>
        if pairs.all fun pair => hasText pair.1 then
          .ok (withLowerKeys ((merge Value.isSameKey pairs).map fun (key, v) => (keyText key, v)))
        else .error .unshowableKey
    | .text _ => .error (.wrongLength 0 1)
    | v => .error (.notIterable v.kind)

/-- The section for logging, which may be a mapping, a list of pairs, or anything that counts as false. -/
def logger (s : Settings) : Except SectionFault (List (String × Value)) := sectionOf ((s.get? "logger").getD .null)

end BerOid.Settings
