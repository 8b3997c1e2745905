import SearchClient.Number.Digit
import SearchClient.Text.Blank

/-!
# Numerals

Whole numbers as text. Reading takes decimal digits of any script, a sign, single underscores
between digits and blanks around the whole; writing gives plain digits. Neither is done with
more than `Numeral.maxDigits` digits.

1. `Numeral.takeDigits` splits off a run of digits;
2. `Numeral.read?` reads a whole text as an integer;
3. `Numeral.write` writes an integer, and `Numeral.isWritable` tells whether it is short enough.
-/

namespace SearchClient
namespace Numeral

/-! ## Reading -/

/-- Blanks that may surround a number: the information separators may not. -/
def isPadding (c : Char) : Bool :=
  Text.isBlank c && !(0x1C ≤ c.toNat && c.toNat ≤ 0x1F)

/-- A number's text without the blanks around it. -/
def trimPadding (s : Text) : Text := Text.stripBy isPadding s

/-- The values of the digits that a text starts with, and the rest. An underscore belongs to the
run if digits stand on both sides of it. -/
def takeDigits : Text → List Nat × Text
  | [] => ([], [])
  | c :: '_' :: s =>
    match Digit.value? c with
    | none => ([], c :: '_' :: s)
    | some d =>
      match takeDigits s with
      -- no digit behind it: the underscore is left with the rest
      | ([], _) => ([d], '_' :: s)
      | (ds, rest) => (d :: ds, rest)
  | c :: s =>
    match Digit.value? c with
    | none => ([], c :: s)
    | some d =>
      let (ds, rest) := takeDigits s
      (d :: ds, rest)

/-- The number that digits stand for, the most significant first. -/
def ofDigits (ds : List Nat) : Nat := ds.foldl (fun n d => 10 * n + d) 0

/-- The most digits that an integer may be read from or written with. -/
def maxDigits : Nat := 4300

/-- A sign, if there is one, and the rest: the flag tells a minus. -/
def takeSign : Text → Bool × Text
  | '-' :: s => (true, s)
  | '+' :: s => (false, s)
  | s => (false, s)

/-- The integer that a whole text stands for. -/
def read? (s : Text) : Option Int :=
  let (negative, t) := takeSign (trimPadding s)
  match takeDigits t with
  | ([], _) => none
  | (ds, []) =>
    if ds.length ≤ maxDigits then
      some (if negative then -(ofDigits ds : Int) else ofDigits ds)
    else none
  | _ => none

/-! ## Writing -/

/-- A natural number in decimal digits. -/
def writeNat (n : Nat) : Text := Nat.toDigits 10 n

/-- An integer in decimal digits, with a minus if it is negative. -/
def write (n : Int) : Text :=
  if n < 0 then '-' :: writeNat n.natAbs else writeNat n.natAbs

/-- Whether an integer is short enough to be written: a minus is no digit. -/
def isWritable (n : Int) : Bool := (writeNat n.natAbs).length ≤ maxDigits

end Numeral
end SearchClient
