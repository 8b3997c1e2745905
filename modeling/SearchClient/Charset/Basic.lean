import SearchClient.Charset.UpperHalf
import SearchClient.Text.Basic

/-!
# Character sets

The single-octet character sets that an encoded word may name: the parts of ISO 8859, ASCII and
the Thai standard. `Charset.decode` reads octets in one of them, and an octet without a character
becomes the replacement character U+FFFD.

The wire itself is in Latin-1: `Latin1.encode` writes a question mark for a character it lacks,
and `Latin1.decode` reads every octet as the character of the same number.
-/

namespace SearchClient

/-- A single-octet character set. -/
inductive Charset where
  | ascii
  | latin1
  | latin2
  | latin3
  | latin4
  | cyrillic
  | arabic
  | greek
  | hebrew
  | latin5
  | latin6
  | thai
  | latin7
  | latin8
  | latin9
  | latin10
  | tis620
  deriving DecidableEq

namespace Charset

/-- Stands for an octet without a character. -/
def replacement : Char := '\uFFFD'

/-- The upper half of a set that differs from Latin-1 there. -/
def upperHalf? : Charset → Option (List Nat)
  | ascii => some []
  | latin1 => none
  | latin2 => some latin2Upper
  | latin3 => some latin3Upper
  | latin4 => some latin4Upper
  | cyrillic => some cyrillicUpper
  | arabic => some arabicUpper
  | greek => some greekUpper
  | hebrew => some hebrewUpper
  | latin5 => some latin5Upper
  | latin6 => some latin6Upper
  | thai => some thaiUpper
  | latin7 => some latin7Upper
  | latin8 => some latin8Upper
  | latin9 => some latin9Upper
  | latin10 => some latin10Upper
  | tis620 => some (0 :: thaiUpper.drop 1)

/-- The first octet that is not its own code point. -/
def firstSpecial : Charset → Nat
  | ascii => 0x80
  | _ => 0xA0

def char (charset : Charset) (octet : UInt8) : Char :=
  let n := octet.toNat
  match charset.upperHalf? with
  | none => Char.ofNat n
  | some upper =>
    if n < charset.firstSpecial then Char.ofNat n
    else
      match upper[n - charset.firstSpecial]? with
      | none => replacement
      | some 0 => replacement
      | some code => Char.ofNat code

def decode (charset : Charset) (octets : Bytes) : Text := octets.map charset.char

end Charset

namespace Latin1

/-- The octet of a character, that of a question mark if it has none. -/
def octet (c : Char) : UInt8 := if c.toNat < 0x100 then c.toNat.toUInt8 else 0x3F

def encode (s : Text) : Bytes := s.map octet

def decode (octets : Bytes) : Text := Charset.latin1.decode octets

theorem toNat_char (b : UInt8) : (Charset.latin1.char b).toNat = b.toNat := by
  have hb : b.toNat < 256 := b.toNat_lt
  simp only [Charset.char, Charset.upperHalf?]
  rw [Char.ofNat, dif_pos (Or.inl (by omega))]
  rfl

theorem char_eq_iff (b : UInt8) (c : Char) : Charset.latin1.char b = c ↔ b.toNat = c.toNat := by
  rw [← toNat_char, Char.toNat_inj]

/-- What the wire makes of a character: itself, or a question mark if Latin-1 lacks it. -/
def masked (c : Char) : Char := if c.toNat < 0x100 then c else '?'

theorem char_octet (c : Char) : Charset.latin1.char (octet c) = masked c := by
  rw [char_eq_iff, octet, masked]
  split
  · rename_i h
    simp only [Nat.toUInt8_eq, UInt8.toNat_ofNat']
    omega
  · rfl

theorem decode_encode (s : Text) : decode (encode s) = s.map masked := by
  simp [decode, Charset.decode, encode, char_octet]

end Latin1
end SearchClient
