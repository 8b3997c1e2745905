import SearchClient.Number.Binary64

/-!
# Decimal text of floating-point numbers

Reading accepts a decimal fraction with an optional exponent, the words `inf`, `infinity` and
`nan`, a sign, single underscores between digits and blanks around the whole; the result is
correctly rounded. Writing gives a fixed number of places, a half going to the even digit.
-/

namespace SearchClient
namespace Binary64

/-! ## Reading -/

/-- The power of ten that a text after an exponent mark stands for. -/
def readExponent? (s : Text) : Option Int :=
  let (negative, t) := Numeral.takeSign s
  match Numeral.takeDigits t with
  | ([], _) => none
  | (ds, []) => some (if negative then -(Numeral.ofDigits ds : Int) else Numeral.ofDigits ds)
  | _ => none

/-- The digits of a decimal fraction without sign and the power of ten of the last one. -/
def readDigits? (s : Text) : Option (List Nat × Int) :=
  let (whole, afterWhole) := Numeral.takeDigits s
  let (fraction, afterFraction) :=
    match afterWhole with
    | '.' :: t => Numeral.takeDigits t
    | _ => ([], afterWhole)
  let ds := whole ++ fraction
  if ds.isEmpty then none
  else
    match afterFraction with
    | [] => some (ds, -(fraction.length : Int))
    | c :: t =>
      if c = 'e' || c = 'E' then
        (readExponent? t).map fun e => (ds, e - fraction.length)
      else none

/-- The number with the given digits, the last one worth `10 ^ exponent`. Far outside the range
of the format the power of ten is not computed: the result is infinite, or zero. -/
def ofDecimal (negative : Bool) (ds : List Nat) (exponent : Int) : Binary64 :=
  let significant := ds.dropWhile (· == 0)
  let n := Numeral.ofDigits significant
  if n = 0 then finite negative 0
  else if 400 < significant.length + exponent then infinity negative
  else if significant.length + exponent < -400 then finite negative 0
  else if 0 ≤ exponent then ofQuotient negative (n * Nat.pow 10 exponent.toNat) 1
  else ofQuotient negative n (Nat.pow 10 (-exponent).toNat)

/-- The number that a whole text stands for. -/
def read? (s : Text) : Option Binary64 :=
  let (negative, t) := Numeral.takeSign (Numeral.trimPadding s)
  let word := t.map Char.toLower
  if word = ['i', 'n', 'f'] || word = ['i', 'n', 'f', 'i', 'n', 'i', 't', 'y'] then
    some (infinity negative)
  else if word = ['n', 'a', 'n'] then some nan
  else (readDigits? t).map fun (ds, exponent) => ofDecimal negative ds exponent

/-! ## Writing -/

/-- A natural number of units of `10 ^ -places` with its decimal point. -/
def placePoint (places n : Nat) : Text :=
  let digits := Numeral.writeNat n
  let padded := List.replicate (places + 1 - digits.length) '0' ++ digits
  padded.take (padded.length - places) ++ '.' :: padded.drop (padded.length - places)

/-- A number with a fixed number of decimal places. -/
def writeFixed (places : Nat) : Binary64 → Text
  | nan => ['n', 'a', 'n']
  | infinity m => if m then ['-', 'i', 'n', 'f'] else ['i', 'n', 'f']
  | finite m units =>
    let digits := placePoint places (nearestEven (units * Nat.pow 10 places) unitsPerOne)
    if m then '-' :: digits else digits

end Binary64
end SearchClient
