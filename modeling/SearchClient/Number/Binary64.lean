import SearchClient.Number.Numeral

/-!
# Binary floating point

The numbers of the 64-bit binary format as exact data. Every finite one is a whole number of
units of `2 ^ -1074`, the least positive number of the format, so a finite number is a sign and
that count. An operation computes its exact result as a quotient of naturals and rounds it once.

1. `Binary64.ofQuotient` is the correctly rounded quotient, a half going to the even neighbour;
2. `add`, `divNat` and `ofRatio` are the arithmetic of the client, `lt` its comparison;
3. `truncate?` drops the fraction, `bits` gives the interchange format.
-/

namespace SearchClient

/-- A number of the 64-bit binary format; a finite one is `units * 2 ^ -1074` with its sign. -/
inductive Binary64 where
  | nan
  | infinity (negative : Bool)
  | finite (negative : Bool) (units : Nat)
  deriving DecidableEq

namespace Binary64

/-! ## Rounding -/

/-- The places of a unit behind the binary point. -/
@[irreducible] def unitPlaces : Nat := 1074

/-- The exponent of the first power of two that is too large for the format. -/
@[irreducible] def limitExponent : Nat := 1024

/-- How many units make one. -/
def unitsPerOne : Nat := Nat.pow 2 unitPlaces

/-- The units of the first power of two that is too large for the format. -/
def limit : Nat := Nat.pow 2 (limitExponent + unitPlaces)

/-- The natural number nearest to `a / b`; of two nearest ones the even. -/
def nearestEven (a b : Nat) : Nat :=
  let q := a / b
  let r := a % b
  if 2 * r < b then q
  else if b < 2 * r then q + 1
  else if q % 2 = 0 then q else q + 1

/-- `a / b` rounded to 53 significant bits, or to a whole number if it is below `2 ^ 53`. -/
def roundUnits (a b : Nat) : Nat :=
  -- subtraction stops at zero, so small quotients are rounded to whole units
  let spacing := Nat.pow 2 ((a / b).log2 - 52)
  nearestEven a (b * spacing) * spacing

/-- The quotient of two naturals, the second positive, correctly rounded. -/
def ofQuotient (negative : Bool) (num den : Nat) : Binary64 :=
  let units := roundUnits (num * unitsPerOne) den
  if limit ≤ units then infinity negative else finite negative units

/-- An integer, correctly rounded. -/
def ofInt (n : Int) : Binary64 := ofQuotient (n < 0) n.natAbs 1

/-- The quotient of two integers, the second not zero, correctly rounded. -/
def ofRatio (x y : Int) : Binary64 := ofQuotient ((x < 0) != (y < 0)) x.natAbs y.natAbs

def zero : Binary64 := finite false 0

/-! ## Arithmetic -/

/-- The units of a finite number with its sign. -/
def signedUnits (negative : Bool) (units : Nat) : Int := if negative then -units else units

/-- The sum, correctly rounded; a sum of zero is negative only if both terms are. -/
def add : Binary64 → Binary64 → Binary64
  | nan, _ => nan
  | _, nan => nan
  | infinity m, infinity n => if m = n then infinity m else nan
  | infinity m, finite .. => infinity m
  | finite .., infinity n => infinity n
  | finite m x, finite n y =>
    let sum := signedUnits m x + signedUnits n y
    if sum = 0 then finite (m && n) 0
    else ofQuotient (sum < 0) sum.natAbs unitsPerOne

/-- The quotient by a positive natural, correctly rounded. -/
def divNat (x : Binary64) (n : Nat) : Binary64 :=
  match x with
  | nan => nan
  | infinity m => infinity m
  | finite m units => ofQuotient m units (n * unitsPerOne)

/-- Whether the first number is less than the second; not-a-number is never in order. -/
def lt : Binary64 → Binary64 → Bool
  | nan, _ => false
  | _, nan => false
  | infinity m, infinity n => m && !n
  | infinity m, finite .. => m
  | finite .., infinity n => !n
  | finite m x, finite n y => signedUnits m x < signedUnits n y

/-- The whole part of a finite number. -/
def truncate? : Binary64 → Option Int
  | finite m units => some (signedUnits m (units / unitsPerOne))
  | _ => none

/-! ## Interchange format -/

/-- The units from which on numbers have an exponent: the least significand of 53 bits. -/
def leastNormal : Nat := Nat.pow 2 52

/-- The weight of the sign bit. -/
def signWeight : Nat := Nat.pow 2 63

/-- Exponent and fraction fields of a finite number: below `leastNormal` units the exponent is
zero, and from there it counts the doublings of the spacing. -/
def magnitudeBits (units : Nat) : Nat :=
  if units < leastNormal then units
  else
    let doublings := units.log2 - 52
    (doublings + 1) * leastNormal + (units / Nat.pow 2 doublings - leastNormal)

/-- The 64 bits of the interchange format as a natural number. -/
def bits : Binary64 → Nat
  | nan => 0x7FF8000000000000
  | infinity m => (if m then signWeight else 0) + 0x7FF0000000000000
  | finite m units => (if m then signWeight else 0) + magnitudeBits units

end Binary64
end SearchClient
