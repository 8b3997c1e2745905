import SearchClient.Charset.Label
import SearchClient.Mime.QuotedPrintable
import SearchClient.Text.Blank

/-!
# Encoded words

A field may hold words in a character set of their own, such as `=?ISO-8859-1?Q?Caf=E9?=`: the
label of the set, the encoding and the payload between question marks. Only the ISO sets are
looked for. A text is cut into pieces, and each piece is decoded:

1. plain text stands for itself;
2. a word in the Q encoding stands for its payload;
3. a word in another encoding keeps its header, and what quoted-printable there is in it is read;
4. from a marker that opens no whole word on, the rest is one quoted-printable text.

One blank between two words is no part of the text.
-/

namespace SearchClient
namespace EncodedWord

/-- A word as it is written: `=?charset?encoding?payload?=`. -/
structure Word where
  charset : Text
  encoding : Char
  payload : Text
  deriving DecidableEq

/-- A part of a field. -/
inductive Piece where
  | plain (text : Text)
  | word (word : Word)
  | broken (text : Text)
  deriving DecidableEq

/-! ## Cutting into pieces -/

/-- Whether an encoded word may start here. -/
def startsMarker (s : Text) : Bool :=
  ['=', '?', 'I', 'S', 'O', '-'].isPrefixOf s || ['=', '?', 'i', 's', 'o', '-'].isPrefixOf s

/-- The text before the first marker, and the text from it on. -/
def splitAtMarker : Text → Text × Text
  | [] => ([], [])
  | c :: s =>
    if startsMarker (c :: s) then ([], c :: s)
    else
      let (before, marked) := splitAtMarker s
      (c :: before, marked)

theorem splitAtMarker_append (s : Text) : (splitAtMarker s).1 ++ (splitAtMarker s).2 = s := by
  induction s with
  | nil => rfl
  | cons c s ih =>
    unfold splitAtMarker
    split
    · rfl
    · simpa using ih

/-- The word that a text starts with, and the text after it. -/
def Word.read? (s : Text) : Option (Word × Text) :=
  -- the marker's own question mark does not end the label
  match Text.cut? ['?'] (s.drop 2) with
  | some (charset, encoding :: '?' :: body) =>
    (Text.cut? ['?', '='] body).map fun (payload, rest) => (⟨charset, encoding, payload⟩, rest)
  | _ => none

theorem Word.length_of_read? {s rest : Text} {w : Word} (h : Word.read? s = some (w, rest)) :
    rest.length < s.length := by
  unfold Word.read? at h
  split at h
  · rename_i charset encoding body hcut
    simp only [Option.map_eq_some_iff] at h
    rcases h with ⟨⟨payload, rest'⟩, hbody, heq⟩
    simp only [Prod.mk.injEq] at heq
    rcases heq with ⟨-, rfl⟩
    have h₁ := Text.length_of_cut? hcut
    have h₂ := Text.length_of_cut? hbody
    simp only [List.length_drop, List.length_cons, List.length_nil] at h₁ h₂
    omega
  · simp at h

/-- The text after a word, without a single blank that only separates it from the next. -/
def skipGap : Text → Text
  | [] => []
  | c :: s => if Text.isBlank c && startsMarker s then s else c :: s

theorem length_skipGap_le (s : Text) : (skipGap s).length ≤ s.length := by
  cases s with
  | nil => simp [skipGap]
  | cons c s =>
    simp only [skipGap]
    split <;> simp

/-- What follows the first word of a field is shorter than the field. -/
theorem length_skipGap_lt {s before marked rest : Text} {w : Word}
    (hs : splitAtMarker s = (before, marked)) (hw : Word.read? marked = some (w, rest)) :
    (skipGap rest).length < s.length := by
  have h₁ := congrArg List.length (splitAtMarker_append s)
  have h₂ := Word.length_of_read? hw
  have h₃ := length_skipGap_le rest
  rw [hs] at h₁
  simp only [List.length_append] at h₁
  omega

/-- The pieces of a field. -/
def pieces (s : Text) : List Piece :=
  match hs : splitAtMarker s with
  | (before, []) => [.plain before]
  | (before, c :: t) =>
    match hw : Word.read? (c :: t) with
    | none => [.plain before, .broken (c :: t)]
    | some (w, rest) =>
      have : (skipGap rest).length < s.length := length_skipGap_lt hs hw
      .plain before :: .word w :: pieces (skipGap rest)
termination_by s.length

/-! ## Decoding -/

/-- A word as it is written, without the end mark. -/
def Word.source (w : Word) : Text :=
  '=' :: '?' :: w.charset ++ '?' :: w.encoding :: '?' :: w.payload

/-- Whether the payload is in the Q encoding. -/
def Word.isQ (w : Word) : Bool := w.encoding == 'Q' || w.encoding == 'q'

/-- The octets that a word stands for. -/
def Word.octets (w : Word) : Bytes :=
  if w.isQ then QuotedPrintable.decode true (Latin1.encode w.payload)
  else QuotedPrintable.decode false (Latin1.encode w.source)

/-- The text of a piece, with the wide character sets that are at hand. -/
def Piece.text (wide : Charset.Wide) : Piece → Except Failure Text
  | plain s => .ok s
  | word w => Charset.decodeNamed wide w.charset w.octets
  | broken s => .ok (Latin1.decode (QuotedPrintable.decode false (Latin1.encode s)))

/-- A field with its encoded words decoded, trimmed. -/
def decode (wide : Charset.Wide) (s : Text) : Except Failure Text := do
  let texts ← (pieces s).mapM (Piece.text wide)
  return Text.trim texts.flatten

end EncodedWord
end SearchClient
