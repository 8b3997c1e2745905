import SearchClient.Text.Basic

/-!
# Blank characters

The white space of Unicode together with the four information separators U+001C to U+001F.
`Text.trim` removes it at both ends of a text.
-/

namespace SearchClient
namespace Text

/-- White space: the character breaks or separates, and prints nothing. -/
def isBlank (c : Char) : Bool :=
  let n := c.toNat
  (0x09 ≤ n && n ≤ 0x0D) || (0x1C ≤ n && n ≤ 0x20) || n == 0x85 || n == 0xA0 || n == 0x1680 ||
    (0x2000 ≤ n && n ≤ 0x200A) || n == 0x2028 || n == 0x2029 || n == 0x202F || n == 0x205F ||
    n == 0x3000

/-- The text without the white space at its ends. -/
def trim (s : Text) : Text := stripBy isBlank s

end Text
end SearchClient
