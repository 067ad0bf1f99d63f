import BerOid.Number.IntegerText
import BerOid.Oid.Parse
import BerOid.Value

/-!
# Admission

An object identifier may be handed in as text or as a list of arcs. A list is checked arc by arc, its kind before its range, so the
first arc that is wrong in either way is the one reported.
-/

namespace BerOid

/-- Why a value is no object identifier. -/
inductive InputError where
  | unreadable (e : Oid.ParseError)
  | wrongKind (kind : Value.Kind)
  | wrongArcKind (kind : Value.Kind)
  | arcOutOfRange (arc : Int)
  deriving DecidableEq

/-- What a number that is not a legal arc is called. -/
def rangeText (value limit : Int) : String := "arc value " ++ toString value ++ " is outside 0.." ++ toString limit

/-- The wording of a refusal. -/
def InputError.message : InputError → String
  | unreadable e => e.message
  | wrongKind kind => "OID must be string, tuple, or list, got <class '" ++ kind.name ++ "'>"
  | wrongArcKind kind => "OID arcs must be int, got <class '" ++ kind.name ++ "'>"
  | arcOutOfRange arc => wording [arc] (rangeText arc Oid.maxArc)

namespace Oid

/-- One arc of a list. -/
def arcOfValue : Value → Except InputError Nat
  | .integer n => if 0 ≤ n ∧ n ≤ maxArc then .ok n.toNat else .error (.arcOutOfRange n)
  | v => .error (.wrongArcKind v.kind)

/-- The object identifier that a value stands for. -/
def ofValue : Value → Except InputError Oid
  | .text s => (parse s).mapError .unreadable
  | .list items => items.mapM arcOfValue
  | v => .error (.wrongKind v.kind)

end Oid

end BerOid
