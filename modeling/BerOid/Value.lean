import BerOid.Number.Shortest
import BerOid.Text.Quoted

/-!
# Values

The dynamic values that a configuration file, an environment variable or a caller may hand in: nothing, truth values, whole
numbers, binary64 numbers, texts, lists and mappings. A mapping keeps its entries in the order in which they were given.
-/

namespace BerOid

/-- A dynamic value. -/
inductive Value where
  | null
  | boolean (b : Bool)
  | integer (n : Int)
  | real (x : Binary64)
  | text (s : String)
  | list (items : List Value)
  | mapping (entries : List (String × Value))
  deriving Inhabited

namespace Value

/-- The kinds of values. -/
inductive Kind where
  | null
  | boolean
  | integer
  | real
  | text
  | list
  | mapping
  deriving DecidableEq

/-- The word by which messages call a kind of value. -/
def Kind.name : Kind → String
  | null => "NoneType"
  | boolean => "bool"
  | integer => "int"
  | real => "float"
  | text => "str"
  | list => "list"
  | mapping => "dict"

/-- The kind of a value. -/
def kind : Value → Kind
  | null => .null
  | boolean _ => .boolean
  | integer _ => .integer
  | real _ => .real
  | text _ => .text
  | list _ => .list
  | mapping _ => .mapping

/-- Whether the value counts as true: null, false, zero and everything empty do not. -/
def isTruthy : Value → Bool
  | null => false
  | boolean b => b
  | integer n => n != 0
  | real x => !x.isZero
  | text s => !s.isEmpty
  | list items => !items.isEmpty
  | mapping entries => !entries.isEmpty

mutual

/-- How a message shows a value. -/
def shown : Value → String
  | null => "None"
  | boolean b => if b then "True" else "False"
  | integer n => toString n
  | real x => x.text
  | text s => Text.quoted s
  | list items => "[" ++ ", ".intercalate (shownItems items) ++ "]"
  | mapping entries => "\x7b" ++ ", ".intercalate (shownEntries entries) ++ "\x7d"

/-- The items of a list as a message shows them. -/
def shownItems : List Value → List String
  | [] => []
  | v :: rest => shown v :: shownItems rest

/-- The entries of a mapping as a message shows them. -/
def shownEntries : List (String × Value) → List String
  | [] => []
  | (key, v) :: rest => (Text.quoted key ++ ": " ++ shown v) :: shownEntries rest

end

mutual

/-- The integers that a message which shows the value has to show. -/
def integers : Value → List Int
  | integer n => [n]
  | list items => integersOfItems items
  | mapping entries => integersOfEntries entries
  | _ => []

/-- The integers in the items of a list. -/
def integersOfItems : List Value → List Int
  | [] => []
  | v :: rest => integers v ++ integersOfItems rest

/-- The integers in the values of a mapping. -/
def integersOfEntries : List (String × Value) → List Int
  | [] => []
  | (_, v) :: rest => integers v ++ integersOfEntries rest

end

/-- The exact value of a number as a whole number times a power of two, if it is finite. Truth values count as zero and one. -/
def scaled? : Value → Option (Int × Int)
  | boolean b => some (if b then 1 else 0, 0)
  | integer n => some (n, 0)
  | real (.finite negative m e) => some (if negative then -(m : Int) else m, e)
  | _ => none

/-- Whether two values are the same as keys: numbers are if they are equal, of whatever kind, and what is not a number is never the
same as anything. Lists and mappings are no keys. -/
def isSameKey (v w : Value) : Bool :=
  match v, w with
  | null, null => true
  | text s, text t => s == t
  | real (.infinite negative), real (.infinite negative') => negative == negative'
  | v, w => match scaled? v, scaled? w with
    | some (m, e), some (m', e') => m * Nat.pow 2 (e - min e e').toNat == m' * Nat.pow 2 (e' - min e e').toNat
    | _, _ => false

/-- The value as a whole-number bound from below: a size reaches the bound exactly when it reaches the value. Truth values count as
zero and one; an infinite value and a value that is not a number are reached by no size. -/
def bound? : Value → Option Int
  | boolean b => some (if b then 1 else 0)
  | integer n => some n
  | real (.finite negative m e) => some (Binary64.ceil negative m e)
  | _ => none

/-- Whether the value can be compared with a number. -/
def isNumber : Value → Bool
  | boolean _ | integer _ | real _ => true
  | _ => false

end Value

end BerOid
