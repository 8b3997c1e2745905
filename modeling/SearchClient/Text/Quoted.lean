import SearchClient.Text.Printable

/-!
# Quoted text

Text as error messages quote it: between single quotes, or between double quotes if it has a
single quote and no double one. A backslash, the quote in use and the line characters are escaped
by a backslash, every other unprintable character by its code in lower-case hexadecimal digits.
-/

namespace SearchClient
namespace Quoted

/-- The last `width` hexadecimal digits of a number, in lower case. -/
def hexDigits (width n : Nat) : Text :=
  let digits := Nat.toDigits 16 n
  List.replicate (width - digits.length) '0' ++ digits

/-- The quote for a text. -/
def quoteFor (s : Text) : Char :=
  if s.contains '\'' && !s.contains '"' then '"' else '\''

def encodeChar (quote c : Char) : Text :=
  let n := c.toNat
  if c = quote || c = '\\' then ['\\', c]
  else if c = '\t' then ['\\', 't']
  else if c = '\n' then ['\\', 'n']
  else if c = '\r' then ['\\', 'r']
  else if Text.isPrintable c then [c]
  else if n < 0x100 then '\\' :: 'x' :: hexDigits 2 n
  else if n < 0x10000 then '\\' :: 'u' :: hexDigits 4 n
  else '\\' :: 'U' :: hexDigits 8 n

def encode (s : Text) : Text :=
  let quote := quoteFor s
  quote :: s.flatMap (encodeChar quote) ++ [quote]

end Quoted
end SearchClient
