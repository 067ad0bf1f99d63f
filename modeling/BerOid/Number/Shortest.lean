import BerOid.Number.Binary64

/-!
# Shortest decimals

The decimal that stands for a binary64 number: of all decimals nearer to it than to any other number, those with the fewest
digits, and of these the nearest. The text form writes it positionally from 10⁻⁴ up to 10¹⁶ and with an exponent outside.
-/

namespace BerOid.Binary64

/-- A decimal `digits · 10 ^ exponent`. -/
structure Decimal where
  digits : Nat
  exponent : Int

/-- The decimal without trailing zeros among its digits. -/
def Decimal.reduced (d : Decimal) : Decimal :=
  let rec go : Nat → Decimal → Decimal
    | 0, d => d
    | fuel + 1, d => if d.digits % 10 = 0 then go fuel ⟨d.digits / 10, d.exponent + 1⟩ else d
  if d.digits = 0 then d else go (Nat.toDigits 10 d.digits).length d

/-- The power of ten of the first digit of the positive fraction `n / d`. -/
def leadingExponent (n d : Nat) : Int :=
  if d ≤ n then (Nat.toDigits 10 (n / d)).length - 1
  else -((Nat.toDigits 10 ((d + n - 1) / n - 1)).length : Int)

/-- The decimals on the grid of step `10 ^ exponent` next to `significand · 2 ^ binaryExponent`, and whether the nearest that reads
back as that number is one of them. Both sides are compared in quarters of `2 ^ binaryExponent`, where the ends of the interval
that reads back are whole numbers; the ends belong to it when the significand is even. -/
def onGrid? (significand : Nat) (binaryExponent exponent : Int) : Option Decimal :=
  let grid := Nat.pow 10 exponent.toNat * Nat.pow 2 (2 - binaryExponent).toNat
  let quarter := Nat.pow 2 (binaryExponent - 2).toNat * Nat.pow 10 (-exponent).toNat
  let middle := 4 * significand * quarter
  let low := (4 * significand - if significand = Nat.pow 2 52 ∧ binaryExponent > minExponent then 1 else 2) * quarter
  let high := (4 * significand + 2) * quarter
  let readsBack (c : Nat) : Bool :=
    let x := c * grid
    if significand % 2 = 0 then low ≤ x && x ≤ high else low < x && x < high
  let below := middle / grid
  let above := below + 1
  let preferAbove := 2 * middle > (below + above) * grid || (2 * middle == (below + above) * grid && below % 2 == 1)
  match readsBack below, readsBack above with
  | true, true => some ⟨if preferAbove then above else below, exponent⟩
  | true, false => some ⟨below, exponent⟩
  | false, true => some ⟨above, exponent⟩
  | false, false => none

/-- The shortest decimal of a positive finite number: grids of one, two, … seventeen digits are tried in turn, and seventeen digits
always read back. -/
def shortest (significand : Nat) (exponent : Int) : Decimal :=
  let (n, d) := scaled significand 1 exponent
  let first := leadingExponent n d
  let found := (List.range 17).findSome? fun (k : Nat) => onGrid? significand exponent (first - k)
  (found.getD ⟨0, 0⟩).reduced

/-- A decimal with a point: positional when its first digit stands for 10⁻⁴ to 10¹⁵, else with an exponent of at least two digits. -/
def Decimal.text (d : Decimal) : List Char :=
  let ds := Nat.toDigits 10 d.digits
  let first := d.exponent + ds.length - 1
  if -4 ≤ first ∧ first < 16 then
    if d.exponent ≥ 0 then ds ++ List.replicate d.exponent.toNat '0' ++ ['.', '0']
    else if first ≥ 0 then ds.take (first.toNat + 1) ++ '.' :: ds.drop (first.toNat + 1)
    else '0' :: '.' :: List.replicate (-first - 1).toNat '0' ++ ds
  else
    let mantissa := match ds with
      | [c] => [c]
      | c :: rest => c :: '.' :: rest
      | [] => []
    let size := Nat.toDigits 10 first.natAbs
    mantissa ++ 'e' :: (if first < 0 then '-' else '+') :: (List.replicate (2 - size.length) '0' ++ size)

/-- The text form of a number. -/
def text : Binary64 → String
  | .nan => "nan"
  | .infinite negative => if negative then "-inf" else "inf"
  | .finite negative m e =>
    let body := if m = 0 then ['0', '.', '0'] else (shortest m e).text
    String.ofList (if negative then '-' :: body else body)

end BerOid.Binary64
