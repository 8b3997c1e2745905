import SearchClient.Proofs.Mime.Decoding
import SearchClient.Proofs.Text.Marks

/-!
# Fields written with words

Decoding undoes writing: a field that is put together of plain text and of words in the Q encoding
is decoded to the plain text and to the texts of the words.

1. `QuotedPrintable.Spelling` is a way to write an octet, and `QuotedPrintable.decode_spelled` says
   that a payload is decoded to the octets that it spells, in whichever way each of them is written;
2. `EncodedWord.read?_written` says that a word is read back whole wherever it stands, since a
   question mark comes neither in its label nor in its payload;
3. `EncodedWord.passes_of_unmarked` says that no word begins in plain text and ends behind it;
4. `EncodedWord.decode_written` puts the pieces of a field together, with the single blanks between
   words that are no part of the text.
-/

namespace SearchClient

/-! ## Spelled octets -/

namespace QuotedPrintable

variable {header : Bool} {b high low : UInt8} {rest : Bytes}

theorem ne_of_hexOctet? (h : hexOctet? high low = some b) {d : UInt8} (hd : hexValue? d = none) :
    high ≠ d := by
  rintro rfl
  simp [hexOctet?, hd] at h

theorem decode_escape (h : hexOctet? high low = some b) :
    decode header (ascii '=' :: high :: low :: rest) = b :: decode header rest := by
  -- a digit neither breaks the line nor is the sign itself
  have hfeed : high ≠ 10 := ne_of_hexOctet? h (by decide)
  have hreturn : high ≠ 13 := ne_of_hexOctet? h (by decide)
  have hsign : high ≠ ascii '=' := ne_of_hexOctet? h (by decide)
  rw [decode.eq_def]
  simp [hfeed, hreturn, hsign, h]

theorem decode_underscore : decode true (ascii '_' :: rest) = ascii ' ' :: decode true rest := by
  have hsign : ascii '_' ≠ ascii '=' := by decide
  rw [decode.eq_def]
  simp [hsign]

theorem decode_literal (hsign : b ≠ ascii '=') (hunderscore : b ≠ ascii '_') :
    decode header (b :: rest) = b :: decode header rest := by
  rw [decode.eq_def]
  simp [hsign, hunderscore]

theorem octet_of_ascii {c : Char} (hc : c.toNat < 0x80) : Latin1.octet c = ascii c := by
  rw [Latin1.octet, if_pos (by omega)]
  rfl

/-- A hexadecimal digit, a letter in either case. -/
def hexDigit (capital : Bool) (n : Nat) : Char :=
  if capital then n.digitChar.toUpper else n.digitChar

theorem hexOctet?_hexDigit (b : UInt8) (highCapital lowCapital : Bool) :
    hexOctet? (ascii (hexDigit highCapital (b.toNat / 16)))
      (ascii (hexDigit lowCapital (b.toNat % 16))) = some b := by
  have hvalue : ∀ capital, ∀ n < 16, hexValue? (ascii (hexDigit capital n)) = some n.toUInt8 := by
    decide
  have hb : b.toNat < 256 := b.toNat_lt
  have hoctet : 16 * (b.toNat / 16).toUInt8 + (b.toNat % 16).toUInt8 = b := by
    rw [← UInt8.toNat_inj]
    simp
    omega
  simp only [hexOctet?, hvalue highCapital (b.toNat / 16) (by omega),
    hvalue lowCapital (b.toNat % 16) (by omega), hoctet]

/-- A character that may stand for its own octet: printable ASCII without a meaning of its own. -/
def IsLiteral (c : Char) : Prop := (0x20 < c.toNat ∧ c.toNat < 0x7F) ∧ c ∉ ['=', '?', '_']

instance (c : Char) : Decidable (IsLiteral c) := inferInstanceAs (Decidable (_ ∧ _))

/-- A way to write an octet in the Q encoding. -/
inductive Spelling where
  | escape (octet : UInt8) (highCapital lowCapital : Bool)
  | underscore
  | literal (c : Char) (h : IsLiteral c)

namespace Spelling

/-- The octet that is written. -/
def octet : Spelling → UInt8
  | escape octet _ _ => octet
  | underscore => ascii ' '
  | literal c _ => ascii c

/-- What is written for it. -/
def text : Spelling → Text
  | escape octet highCapital lowCapital =>
    ['=', hexDigit highCapital (octet.toNat / 16), hexDigit lowCapital (octet.toNat % 16)]
  | underscore => ['_']
  | literal c _ => [c]

theorem not_mem_text (spelling : Spelling) : '?' ∉ spelling.text := by
  have hdigit : ∀ capital, ∀ n < 16, '?' ≠ hexDigit capital n := by decide
  cases spelling with
  | escape octet highCapital lowCapital =>
    have hb : octet.toNat < 256 := octet.toNat_lt
    have hhigh := hdigit highCapital (octet.toNat / 16) (by omega)
    have hlow := hdigit lowCapital (octet.toNat % 16) (by omega)
    simp [text, hhigh, hlow]
  | underscore => decide
  | literal c h =>
    have hc : '?' ≠ c := by
      rintro rfl
      exact h.2 (by decide)
    simp [text, hc]

/-- One way to write an octet is undone, whatever follows it. -/
theorem decode_text (spelling : Spelling) (rest : Bytes) :
    decode true (Latin1.encode spelling.text ++ rest) = spelling.octet :: decode true rest := by
  cases spelling with
  | escape b highCapital lowCapital =>
    have hdigit : ∀ capital, ∀ n < 16, (hexDigit capital n).toNat < 0x80 := by decide
    have hb : b.toNat < 256 := b.toNat_lt
    have hhigh := octet_of_ascii (hdigit highCapital (b.toNat / 16) (by omega))
    have hlow := octet_of_ascii (hdigit lowCapital (b.toNat % 16) (by omega))
    have hsign : Latin1.octet '=' = ascii '=' := rfl
    simp only [text, Latin1.encode, List.map_cons, List.map_nil, List.cons_append, List.nil_append]
    rw [hsign, hhigh, hlow, decode_escape (hexOctet?_hexDigit b highCapital lowCapital), octet]
  | underscore => exact decode_underscore
  | literal c h =>
    obtain ⟨⟨_, hc⟩, hmeaning⟩ := h
    simp only [List.mem_cons, List.not_mem_nil, or_false, not_or] at hmeaning
    have hascii : c.toNat < 0x80 := by omega
    have hsign : ascii c ≠ ascii '=' := fun heq =>
      hmeaning.1 (eq_of_ascii_eq hascii (by decide) heq)
    have hunderscore : ascii c ≠ ascii '_' := fun heq =>
      hmeaning.2.2 (eq_of_ascii_eq hascii (by decide) heq)
    simp only [text, Latin1.encode, List.map_cons, List.map_nil, List.cons_append, List.nil_append]
    rw [octet_of_ascii hascii, decode_literal hsign hunderscore]
    rfl

end Spelling

/-- **A payload is decoded to the octets that it spells.** -/
theorem decode_spelled (payload : List Spelling) :
    decode true (Latin1.encode (payload.flatMap Spelling.text)) = payload.map Spelling.octet := by
  induction payload with
  | nil =>
    unfold decode
    rfl
  | cons spelling payload ih =>
    have happend : Latin1.encode ((spelling :: payload).flatMap Spelling.text) =
        Latin1.encode spelling.text ++ Latin1.encode (payload.flatMap Spelling.text) := by
      simp [Latin1.encode]
    rw [happend, Spelling.decode_text, ih, List.map_cons]

end QuotedPrintable

/-! ## Words -/

namespace EncodedWord

open QuotedPrintable (Spelling)

variable {wide : Charset.Wide} {s t rest before : Text} {w : Word}

/-- A word in the Q encoding, with its payload octet by octet. -/
structure QWord where
  label : Text
  capital : Bool
  payload : List Spelling
  label_begins : ['I', 'S', 'O', '-'] <+: label ∨ ['i', 's', 'o', '-'] <+: label
  label_whole : '?' ∉ label
  label_legible : '\x00' ∉ label

namespace QWord

def word (w : QWord) : Word where
  charset := w.label
  encoding := if w.capital then 'Q' else 'q'
  payload := w.payload.flatMap Spelling.text

/-- The word in a field. -/
def written (w : QWord) : Text := w.word.source ++ ['?', '=']

/-- The text of its octets in the set that it names, in Latin-1 if that is unknown. -/
def text (wide : Charset.Wide) (w : QWord) : Text :=
  Charset.read wide w.label (w.payload.map Spelling.octet)

theorem octets_word (w : QWord) : w.word.octets = w.payload.map Spelling.octet := by
  have hq : w.word.isQ = true := by
    cases hcapital : w.capital <;> simp [Word.isQ, word, hcapital]
  rw [Word.octets, if_pos hq]
  exact QuotedPrintable.decode_spelled w.payload

theorem text_word (wide : Charset.Wide) (w : QWord) :
    Piece.text wide (.word w.word) = .ok (w.text wide) := by
  rw [Piece.text, Charset.decodeNamed_eq_ok_iff, octets_word]
  exact ⟨w.label_legible, rfl⟩

theorem startsMarker_written (w : QWord) (rest : Text) : startsMarker (w.written ++ rest) = true := by
  rw [startsMarker_iff]
  rcases w.label_begins with ⟨label, hlabel⟩ | ⟨label, hlabel⟩
  · exact ⟨"=?ISO-".toList, by decide, by simp [written, Word.source, word, ← hlabel]⟩
  · exact ⟨"=?iso-".toList, by decide, by simp [written, Word.source, word, ← hlabel]⟩

/-- **A word is read back whole**, whatever follows it. -/
theorem read?_written (w : QWord) (rest : Text) :
    Word.read? (w.written ++ rest) = some (w.word, rest) := by
  have hpayload : '?' ∉ w.word.payload := by
    simp only [word, List.mem_flatMap, not_exists, not_and]
    intro spelling _
    exact spelling.not_mem_text
  have hend : Text.cut? ['?', '='] (w.word.payload ++ (['?', '='] ++ rest)) =
      some (w.word.payload, rest) := by
    rw [Text.cut?_append (Text.passes_of_not_mem hpayload), Text.cut?_self (List.cons_ne_nil _ _)]
    simp
  have hlabel := Text.cut?_of_not_mem w.label_whole
    (w.word.encoding :: '?' :: (w.word.payload ++ (['?', '='] ++ rest)))
  have hbody : (w.written ++ rest).drop 2 =
      w.label ++ '?' :: w.word.encoding :: '?' :: (w.word.payload ++ (['?', '='] ++ rest)) := by
    simp [written, Word.source, word]
  simp only [Word.read?, hbody, hlabel, hend, Option.map_some]
  rfl

end QWord

/-! ## Pieces of a field -/

/-- The pieces from a marker on, none if there is no marker. -/
def markedPieces (s : Text) : List Piece :=
  match s, Word.read? s with
  | [], _ => []
  | c :: t, none => [.broken (c :: t)]
  | _ :: _, some (w, rest) => .word w :: pieces (skipGap rest)

theorem pieces_eq (s : Text) :
    pieces s = .plain (splitAtMarker s).1 :: markedPieces (splitAtMarker s).2 := by
  rw [pieces]
  split
  · rename_i hs
    rw [hs, markedPieces]
  · rename_i hs
    split
    · rename_i hread
      simp only [hs, markedPieces, hread]
    · rename_i hread
      simp only [hs, markedPieces, hread]

/-- What a field is read as before it is trimmed. -/
def Reads (wide : Charset.Wide) (s t : Text) : Prop :=
  ∃ texts, (pieces s).mapM (Piece.text wide) = .ok texts ∧ texts.flatten = t

theorem Reads.nil : Reads wide [] [] := ⟨[[]], by rw [pieces_nil]; rfl, rfl⟩

/-- **A word at the start of a field is read as its text.** -/
theorem Reads.word (h : Reads wide (skipGap rest) t) (w : QWord) :
    Reads wide (w.written ++ rest) (w.text wide ++ t) := by
  obtain ⟨texts, htexts, rfl⟩ := h
  obtain ⟨u, hu⟩ := eq_cons_cons_of_startsMarker (w.startsMarker_written rest)
  have hsplit : splitAtMarker (w.written ++ rest) = ([], w.written ++ rest) := by
    have hmarker := w.startsMarker_written rest
    rw [hu] at hmarker ⊢
    rw [splitAtMarker, if_pos hmarker]
  have hpieces : pieces (w.written ++ rest) = .plain [] :: .word w.word :: pieces (skipGap rest) := by
    have hread := w.read?_written rest
    rw [pieces_eq, hsplit]
    rw [hu] at hread ⊢
    simp only [markedPieces, hread]
  refine ⟨[] :: w.text wide :: texts, ?_, rfl⟩
  rw [hpieces, Outcome.mapM_eq_ok_iff]
  exact .cons rfl (.cons (w.text_word wide) (Outcome.mapM_eq_ok_iff.1 htexts))

/-! ### Plain text before a word -/

theorem splitAtMarker_of_passes (h : ∀ mark ∈ markers, Text.Passes mark s t) :
    splitAtMarker (s ++ t) = (s ++ (splitAtMarker t).1, (splitAtMarker t).2) := by
  induction s with
  | nil => rfl
  | cons c s ih =>
    have hhere : ¬ startsMarker (c :: (s ++ t)) = true := by
      rw [startsMarker_iff]
      rintro ⟨mark, hmark, hbegin⟩
      exact h mark hmark 0 (Nat.zero_lt_succ _) hbegin
    have hlater : ∀ mark ∈ markers, Text.Passes mark s t := fun mark hmark n hn =>
      h mark hmark (n + 1) (Nat.succ_lt_succ hn)
    rw [List.cons_append, splitAtMarker, if_neg hhere, ih hlater]
    rfl

/-- A text in which no word begins is read as itself, and the rest as before. -/
theorem Reads.append (h : Reads wide rest t) (hs : ∀ mark ∈ markers, Text.Passes mark s rest) :
    Reads wide (s ++ rest) (s ++ t) := by
  obtain ⟨texts, htexts, rfl⟩ := h
  rw [pieces_eq, Outcome.mapM_eq_ok_iff, List.forall₂_cons_left_iff] at htexts
  obtain ⟨_, more, hbefore, hmore, rfl⟩ := htexts
  cases hbefore
  refine ⟨(s ++ (splitAtMarker rest).1) :: more, ?_, by simp⟩
  rw [pieces_eq, splitAtMarker_of_passes hs, Outcome.mapM_eq_ok_iff]
  exact .cons rfl hmore

/-- **No word begins in a plain text and ends behind it**, as a marker begins with a sign that comes
nowhere else in it. -/
theorem passes_of_unmarked (hs : Unmarked s) (ht : t = [] ∨ startsMarker t = true) :
    ∀ mark ∈ markers, Text.Passes mark s t := by
  have hhead : ∀ d, t.head? = some d → d = '=' := by
    intro d hd
    rcases ht with rfl | hmarker
    · cases hd
    · obtain ⟨u, rfl⟩ := eq_cons_cons_of_startsMarker hmarker
      exact (Option.some.inj hd).symm
  intro mark hmark
  have hstands := hs mark hmark
  simp only [markers, List.mem_cons, List.not_mem_nil, or_false] at hmark
  rcases hmark with rfl | rfl
  · exact Text.passes_of_not_mem_tail (by decide) hstands hhead
  · exact Text.passes_of_not_mem_tail (by decide) hstands hhead

/-! ## Fields put together -/

/-- A part of a field that is written: plain text in which no word begins, or a word. -/
inductive Item where
  | plain (text : Text) (h : Unmarked text)
  | word (word : QWord)

namespace Item

def isWord : Item → Bool
  | plain .. => false
  | word _ => true

def written : Item → Text
  | plain s _ => s
  | word w => w.written

end Item

/-- Whether items begin with a word. -/
def beginsWithWord (items : List Item) : Bool := items.head?.any Item.isWord

/-- A single blank. -/
def isGap : Text → Bool
  | [c] => Text.isBlank c
  | _ => false

/-- What items mean, the first of them behind a word or not: plain text means itself, but a single
blank between two words means nothing. -/
def meaningAfter (wide : Charset.Wide) (afterWord : Bool) : List Item → Text
  | [] => []
  | .word w :: items => w.text wide ++ meaningAfter wide true items
  | .plain s _ :: items =>
    if afterWord && isGap s && beginsWithWord items then meaningAfter wide false items
    else s ++ meaningAfter wide false items

/-- Every item but the last has a word beside it. -/
def Apart (items : List Item) : Prop := items.IsChain fun item next => item.isWord ∨ next.isWord

instance (items : List Item) : Decidable (Apart items) :=
  inferInstanceAs (Decidable (items.IsChain fun item next => item.isWord ∨ next.isWord))

variable {items : List Item}

/-- Behind plain text comes nothing or a word. -/
theorem Apart.next {hs : Unmarked s} (h : Apart (.plain s hs :: items)) :
    items = [] ∨ beginsWithWord items = true := by
  cases items with
  | nil => exact .inl rfl
  | cons next items =>
    have hword : Item.isWord (.plain s hs) = true ∨ next.isWord = true :=
      (List.isChain_cons_cons.1 h).1
    exact .inr (hword.resolve_left Bool.false_ne_true)

/-- The written items begin with a marker if the items begin with a word. -/
theorem startsMarker_of_next (h : items = [] ∨ beginsWithWord items = true) :
    startsMarker (items.flatMap Item.written) = beginsWithWord items := by
  cases items with
  | nil => rfl
  | cons item items =>
    have hword := h.resolve_left (List.cons_ne_nil item items)
    cases item with
    | plain s hs => cases hword
    | word w => exact w.startsMarker_written _

/-- No word begins in a plain item and ends behind it. -/
theorem passes_of_next (hs : Unmarked s) (hnext : items = [] ∨ beginsWithWord items = true) :
    ∀ mark ∈ markers, Text.Passes mark s (items.flatMap Item.written) := by
  refine passes_of_unmarked hs ?_
  rcases hnext with rfl | hword
  · exact .inl rfl
  · exact .inr ((startsMarker_of_next (.inr hword)).trans hword)

theorem skipGap_of_startsMarker (h : startsMarker s = true) : skipGap s = s := by
  obtain ⟨u, rfl⟩ := eq_cons_cons_of_startsMarker h
  rfl

/-- Behind a word a plain item is skipped if it is a single blank with a word behind it. -/
theorem skipGap_plain (hs : Unmarked s) (hnext : items = [] ∨ beginsWithWord items = true) :
    skipGap (s ++ items.flatMap Item.written) =
      if isGap s && beginsWithWord items then items.flatMap Item.written
      else s ++ items.flatMap Item.written := by
  have hmarker := startsMarker_of_next hnext
  match s with
  | [] =>
    rcases hnext with rfl | hword
    · rfl
    · exact skipGap_of_startsMarker (hmarker.trans hword)
  | [c] => simp [skipGap, isGap, hmarker]
  | c :: d :: more =>
    -- the marker would begin in the plain text
    have hplain : ¬ startsMarker (d :: (more ++ items.flatMap Item.written)) = true := by
      rw [startsMarker_iff]
      rintro ⟨mark, hmark, hbegin⟩
      exact passes_of_next hs hnext mark hmark 1 (by simp) hbegin
    simp [skipGap, isGap, hplain]

/-- **Written items are read as what they mean**, at the start of a field and behind a word. -/
theorem reads_written (wide : Charset.Wide) (items : List Item) (h : Apart items) :
    Reads wide (items.flatMap Item.written) (meaningAfter wide false items) ∧
      Reads wide (skipGap (items.flatMap Item.written)) (meaningAfter wide true items) := by
  -- by induction on the items: a word goes on behind itself, plain text at a start
  induction items with
  | nil => exact ⟨Reads.nil, Reads.nil⟩
  | cons item items ih =>
    obtain ⟨hstart, hbehind⟩ := ih h.of_cons
    cases item with
    | word w =>
      have hread : Reads wide (w.written ++ items.flatMap Item.written)
          (w.text wide ++ meaningAfter wide true items) := Reads.word hbehind w
      have hskip := skipGap_of_startsMarker (w.startsMarker_written (items.flatMap Item.written))
      refine ⟨hread, ?_⟩
      rw [List.flatMap_cons, Item.written, hskip]
      exact hread
    | plain s hs =>
      have hnext := h.next
      have hread : Reads wide (s ++ items.flatMap Item.written)
          (s ++ meaningAfter wide false items) :=
        hstart.append (passes_of_next hs hnext)
      refine ⟨hread, ?_⟩
      rw [List.flatMap_cons, Item.written, skipGap_plain hs hnext, meaningAfter, Bool.true_and]
      split
      · exact hstart
      · exact hread

/-- **Decoding undoes writing.** A field that is put together of plain text, in which no word begins,
and of words in the Q encoding, with no two plain texts side by side, is decoded to what its parts
mean, trimmed: a word to the text of the octets that its payload spells, in the set that its label
names, and plain text to itself, unless it is a single blank between two words. -/
theorem decode_written (wide : Charset.Wide) (items : List Item) (h : Apart items) :
    decode wide (items.flatMap Item.written) = .ok (Text.trim (meaningAfter wide false items)) := by
  obtain ⟨texts, htexts, hmeaning⟩ := (reads_written wide items h).1
  exact decode_eq_ok_iff.2 ⟨texts, htexts, by rw [hmeaning]⟩

/-- Plain text that ends in a part of a marker, a payload that begins with an equals sign, a blank
between words, a set that nobody knows and an end mark in plain text. -/
def sampleItems : List Item :=
  [ .plain "a =?IS".toList (by decide),
    .word
      { label := "ISO-8859-7".toList
        capital := true
        payload := [.escape 0x3F true true, .escape 0xE1 false true]
        label_begins := by decide
        label_whole := by decide
        label_legible := by decide },
    .plain " ".toList (by decide),
    .word
      { label := "iso-unknown".toList
        capital := false
        payload := [.literal 'x' (by decide), .underscore, .escape 0xE9 true false]
        label_begins := by decide
        label_whole := by decide
        label_legible := by decide },
    .plain "?= b ".toList (by decide) ]

theorem decode_written_sample :
    Apart sampleItems ∧
      decode (fun _ => none) "a =?IS=?ISO-8859-7?Q?=3F=e1?= =?iso-unknown?q?x_=E9?=?= b ".toList =
        .ok "a =?IS?αx é?= b".toList := by
  have hapart : Apart sampleItems := by decide
  have hdecode := decode_written (fun _ => none) sampleItems hapart
  have hwritten : sampleItems.flatMap Item.written =
      "a =?IS=?ISO-8859-7?Q?=3F=e1?= =?iso-unknown?q?x_=E9?=?= b ".toList := by decide
  have hmeaning : Text.trim (meaningAfter (fun _ => none) false sampleItems) = "a =?IS?αx é?= b".toList := by
    decide +kernel
  rw [hwritten, hmeaning] at hdecode
  exact ⟨hapart, hdecode⟩

end EncodedWord
end SearchClient
