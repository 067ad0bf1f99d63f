/-!
# Binary64 numbers

The numbers of the 64-bit binary floating-point format, kept as sign, significand and exponent, so that reading a decimal
(`Binary64.ofDecimal`), cutting off the fraction (`Binary64.trunc`) and comparing with whole numbers are exact integer arithmetic.
-/

namespace BerOid

/-- A number of the binary64 format. A finite one is `± significand · 2 ^ exponent`, the significand below `2 ^ 53` and the
exponent from −1074 to 971. -/
inductive Binary64 where
  | nan
  | infinite (negative : Bool)
  | finite (negative : Bool) (significand : Nat) (exponent : Int)
  deriving DecidableEq

namespace Binary64

/-- The least exponent, which all subnormal numbers share. -/
def minExponent : Int := -1074

/-- The greatest exponent of a finite number. -/
def maxExponent : Int := 971

/-- Zero of either sign. -/
def zero (negative : Bool) : Binary64 := .finite negative 0 minExponent

/-- A quotient rounded to the nearest whole number, a half to the even neighbour. -/
def roundedQuotient (n d : Nat) : Nat :=
  let q := n / d
  let r := n % d
  if 2 * r > d || (2 * r == d && q % 2 == 1) then q + 1 else q

/-- `n / d` as a fraction after multiplication with `2 ^ k`. -/
def scaled (n d : Nat) (k : Int) : Nat × Nat := (n * Nat.pow 2 k.toNat, d * Nat.pow 2 (-k).toNat)

/-- The exponent at which `n / d` has 53 significant bits, or the least exponent if that is greater. -/
def exponentOf (n d : Nat) : Int :=
  let guess : Int := (n.log2 : Int) - d.log2
  let (n', d') := scaled n d (-guess)
  max minExponent ((if n' < d' then guess - 1 else guess) - 52)

/-- The number nearest to the positive fraction `n / d`, infinite beyond the greatest finite number. -/
def ofFraction (negative : Bool) (n d : Nat) : Binary64 :=
  let e := exponentOf n d
  let (n', d') := scaled n d (-e)
  let m := roundedQuotient n' d'
  let (m, e) := if m = Nat.pow 2 53 then (Nat.pow 2 52, e + 1) else (m, e)
  if e > maxExponent then .infinite negative else .finite negative m e

/-- The number nearest to the decimal `± digits · 10 ^ exponent`. Decimals far outside the range of the format are decided by
their size alone, so that no huge power is ever computed. -/
def ofDecimal (negative : Bool) (digits : Nat) (exponent : Int) : Binary64 :=
  let size := exponent + (Nat.toDigits 10 digits).length
  if digits = 0 || size < -330 then zero negative
  else if size > 320 then .infinite negative
  else ofFraction negative (digits * Nat.pow 10 exponent.toNat) (Nat.pow 10 (-exponent).toNat)

/-- Whether the number is a zero. -/
def isZero : Binary64 → Bool
  | .finite _ 0 _ => true
  | _ => false

/-- The whole part of a finite number, the fraction cut off toward zero. -/
def trunc (negative : Bool) (significand : Nat) (exponent : Int) : Int :=
  let (n, d) := scaled significand 1 exponent
  if negative then -((n / d : Nat) : Int) else ((n / d : Nat) : Int)

/-- The least whole number that is not below a finite number. -/
def ceil (negative : Bool) (significand : Nat) (exponent : Int) : Int :=
  let (n, d) := scaled significand 1 exponent
  if negative then -((n / d : Nat) : Int) else (((n + d - 1) / d : Nat) : Int)

end Binary64

end BerOid
