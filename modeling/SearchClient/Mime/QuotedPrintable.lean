import SearchClient.Text.Basic

/-!
# Quoted-printable octets

An equals sign introduces an octet in two hexadecimal digits, or a soft line break that is
dropped together with the rest of its line. Anything else after an equals sign leaves the sign as
it is; of two equals signs one is left, and a last one is dropped.
-/

namespace SearchClient
namespace QuotedPrintable

/-- The octet of an ASCII character. -/
def ascii (c : Char) : UInt8 := c.toNat.toUInt8

/-- The value of a hexadecimal digit in either case. -/
def hexValue? (b : UInt8) : Option UInt8 :=
  if ascii '0' ≤ b ∧ b ≤ ascii '9' then some (b - ascii '0')
  else if ascii 'a' ≤ b ∧ b ≤ ascii 'f' then some (b - ascii 'a' + 10)
  else if ascii 'A' ≤ b ∧ b ≤ ascii 'F' then some (b - ascii 'A' + 10)
  else none

/-- The octet of two hexadecimal digits. -/
def hexOctet? (high low : UInt8) : Option UInt8 :=
  match hexValue? high, hexValue? low with
  | some h, some l => some (16 * h + l)
  | _, _ => none

/-- The octets after the next line feed. -/
def afterLineFeed (s : Bytes) : Bytes := (s.dropWhile (· != 10)).drop 1

theorem length_afterLineFeed_le (s : Bytes) : (afterLineFeed s).length ≤ s.length := by
  have h := (List.dropWhile_suffix (l := s) (· != 10)).length_le
  simp only [afterLineFeed, List.length_drop]
  omega

/-- The octets that a quoted-printable text stands for. In a header an underscore stands for a
space. -/
def decode (header : Bool) (s : Bytes) : Bytes :=
  match s with
  | [] => []
  | b :: rest =>
    if b = ascii '=' then
      match rest with
      -- a last equals sign is dropped
      | [] => []
      | c :: more =>
        -- a soft line break takes everything through the next line feed with it
        if c = 10 ∨ c = 13 then decode header (afterLineFeed (c :: more))
        else if c = ascii '=' then c :: decode header more
        else
          match more with
          | [] => b :: decode header [c]
          | d :: others =>
            match hexOctet? c d with
            | some octet => octet :: decode header others
            -- no octet: only the sign is done with, its neighbours are looked at anew
            | none => b :: decode header (c :: d :: others)
    else if header ∧ b = ascii '_' then ascii ' ' :: decode header rest
    else b :: decode header rest
termination_by s.length
decreasing_by
  · have h := length_afterLineFeed_le (c :: more)
    simp only [List.length_cons] at h ⊢
    omega
  all_goals simp only [List.length_cons, List.length_nil]; omega

end QuotedPrintable
end SearchClient
