import Mathlib.Data.List.Infix
import SearchClient.Mime.EncodedWord
import SearchClient.Proofs.Outcome
import SearchClient.Proofs.Text.Pieces

/-!
# What encoded words stand for

Which characters a decoded field shows. Every piece of a field is a stretch of it
(`EncodedWord.source_infix_of_mem_pieces`), plain pieces show what they are, and the others show
the characters of their octets. All single-octet character sets agree on ASCII, so for a character of
ASCII it does not matter which of them a word names: it is shown exactly if its octet is among those
of a piece, and an octet that the field does not have as it stands is spelled there in two hexadecimal
digits (`EncodedWord.spelled_of_hides`). A wide set has no such law, and a word in one is asked for
its text: `EncodedWord.Hides` covers both, and `EncodedWord.mem_decode_iff` says that it decides.
-/

namespace SearchClient

/-! ## Character sets -/

namespace Charset

/-- Octets are read under every label but one with a NUL. -/
theorem decodeNamed_eq_ok_iff {wide : Wide} {label s : Text} {octets : Bytes} :
    decodeNamed wide label octets = .ok s ↔ '\x00' ∉ label ∧ s = read wide label octets := by
  have hmem : label.contains '\x00' = true ↔ '\x00' ∈ label := List.contains_iff_mem
  rw [decodeNamed]
  by_cases hnul : '\x00' ∈ label
  · rw [if_pos (hmem.2 hnul)]
    exact ⟨nofun, fun h => absurd hnul h.1⟩
  · rw [if_neg (mt hmem.1 hnul), Except.ok.injEq, and_iff_right hnul, eq_comm]

theorem code_of_mem_upperHalf {charset : Charset} {upper : List Nat}
    (h : charset.upperHalf? = some upper) :
    ∀ code ∈ upper, code = 0 ∨ 0x80 ≤ code ∧ code < 0xD800 := by
  cases charset with
  | latin1 => cases h
  | _ =>
    cases h
    decide

theorem toNat_ofNat {n : Nat} (h : n < 0xD800) : (Char.ofNat n).toNat = n := by
  rw [Char.ofNat, dif_pos (Or.inl h)]
  rfl

/-- In every set a character of ASCII is that of the octet with its own number. -/
theorem char_eq_iff_of_ascii (charset : Charset) {c : Char} (hc : c.toNat < 0x80) (b : UInt8) :
    charset.char b = c ↔ b.toNat = c.toNat := by
  have hb : b.toNat < 0x100 := b.toNat_lt
  have hreplacement : replacement.toNat = 0xFFFD := rfl
  have hfirst : 0x80 ≤ charset.firstSpecial := by cases charset <;> decide
  cases hupper : charset.upperHalf? with
  | none =>
    simp only [char, hupper]
    rw [← Char.toNat_inj, toNat_ofNat (by omega)]
  | some upper =>
    simp only [char, hupper]
    split
    · rw [← Char.toNat_inj, toNat_ofNat (by omega)]
    · -- no octet from here on has a character of ASCII
      have hne : ¬ b.toNat = c.toNat := by omega
      refine iff_of_false ?_ hne
      rw [← Char.toNat_inj]
      split
      · omega
      · omega
      · rename_i code hzero hcode
        have hmem := List.mem_of_getElem? hcode
        rcases code_of_mem_upperHalf hupper code hmem with rfl | ⟨hlow, hhigh⟩
        · exact absurd rfl hzero
        · rw [toNat_ofNat hhigh]
          omega

end Charset

namespace QuotedPrintable

theorem eq_ascii_iff {c : Char} (hc : c.toNat < 0x80) (b : UInt8) :
    b = ascii c ↔ b.toNat = c.toNat := by
  have hascii : (ascii c).toNat = c.toNat := by
    simp only [ascii, Nat.toUInt8_eq, UInt8.toNat_ofNat']
    omega
  rw [← UInt8.toNat_inj, hascii]

theorem eq_of_ascii_eq {c d : Char} (hc : c.toNat < 0x80) (hd : d.toNat < 0x80)
    (h : ascii c = ascii d) : c = d := by
  have hnat := (eq_ascii_iff hd _).1 h
  have hself := (eq_ascii_iff hc _).1 (Eq.refl (ascii c))
  exact Char.toNat_inj.1 (hself.symm.trans hnat)

end QuotedPrintable

theorem Charset.mem_decode_iff (charset : Charset) {c : Char} (hc : c.toNat < 0x80)
    (octets : Bytes) : c ∈ charset.decode octets ↔ QuotedPrintable.ascii c ∈ octets := by
  rw [Charset.decode, List.mem_map]
  constructor
  · rintro ⟨b, hb, hchar⟩
    have heq := (QuotedPrintable.eq_ascii_iff hc b).2 ((charset.char_eq_iff_of_ascii hc b).1 hchar)
    exact heq ▸ hb
  · intro hb
    have hnat := (QuotedPrintable.eq_ascii_iff hc _).1 (Eq.refl (QuotedPrintable.ascii c))
    exact ⟨_, hb, (charset.char_eq_iff_of_ascii hc _).2 hnat⟩

/-- Only a question mark stands for characters other than itself. -/
theorem Latin1.mem_of_ascii_mem_encode {c : Char} {s : Text} (hc : c.toNat < 0x80) (hmark : c ≠ '?')
    (h : QuotedPrintable.ascii c ∈ Latin1.encode s) : c ∈ s := by
  rcases List.mem_map.1 h with ⟨d, hd, hoctet⟩
  rw [QuotedPrintable.eq_ascii_iff hc, Latin1.octet] at hoctet
  split at hoctet
  · rename_i hlow
    have hnat : d.toNat = c.toNat := by
      simp only [Nat.toUInt8_eq, UInt8.toNat_ofNat'] at hoctet
      omega
    exact Char.toNat_inj.1 hnat ▸ hd
  · exact absurd (Char.toNat_inj.1 hoctet.symm) hmark

/-! ## Quoted-printable octets -/

namespace QuotedPrintable

/-- An octet is spelled in octets by an equals sign and two hexadecimal digits. -/
def Spells (b : UInt8) (s : Bytes) : Prop :=
  ∃ high low, hexOctet? high low = some b ∧ [ascii '=', high, low] <:+: s

/-- Where an octet of a decoded text may come from: it is there, it is a space, or it is spelled. -/
def Arises (b : UInt8) (s : Bytes) : Prop := b ∈ s ∨ b = ascii ' ' ∨ Spells b s

variable {b : UInt8} {s t : Bytes}

theorem Spells.mono (h : Spells b s) (hst : s <:+: t) : Spells b t := by
  rcases h with ⟨high, low, hoctet, hstretch⟩
  exact ⟨high, low, hoctet, hstretch.trans hst⟩

theorem Arises.mono (h : Arises b s) (hst : s <:+: t) : Arises b t := by
  rcases h with hmem | hspace | hspells
  · exact .inl (hst.subset hmem)
  · exact .inr (.inl hspace)
  · exact .inr (.inr (hspells.mono hst))

theorem Arises.of_suffix (h : Arises b s) (hst : s <:+ t) : Arises b t := h.mono hst.isInfix

theorem afterLineFeed_suffix (s : Bytes) : afterLineFeed s <:+ s :=
  (List.drop_suffix 1 _).trans (List.dropWhile_suffix _)

/-- **Nothing but an escape adds octets** to a decoded text, spaces apart. -/
theorem arises_of_mem_decode {header : Bool} (h : b ∈ decode header s) : Arises b s := by
  -- by induction along the decoder: each of its cases drops octets or passes one on
  fun_induction decode header s with
  | case1 => cases h
  | case2 => cases h
  | case3 c more hbreak ih =>
    have hskip : afterLineFeed (c :: more) <:+ ascii '=' :: c :: more :=
      (afterLineFeed_suffix _).trans (List.suffix_cons _ _)
    exact (ih h).of_suffix hskip
  | case4 more hbreak ih =>
    rcases List.mem_cons.1 h with rfl | hrest
    · exact .inl List.mem_cons_self
    · exact (ih hrest).of_suffix (List.suffix_append [ascii '=', ascii '='] more)
  | case5 c hbreak hne ih =>
    rcases List.mem_cons.1 h with rfl | hrest
    · exact .inl List.mem_cons_self
    · exact (ih hrest).of_suffix (List.suffix_cons _ [c])
  | case6 c hbreak hne d others octet hoctet ih =>
    rcases List.mem_cons.1 h with rfl | hrest
    · exact .inr (.inr ⟨c, d, hoctet, (List.prefix_append [ascii '=', c, d] others).isInfix⟩)
    · exact (ih hrest).of_suffix (List.suffix_append [ascii '=', c, d] others)
  | case7 c hbreak hne d others hoctet ih =>
    rcases List.mem_cons.1 h with rfl | hrest
    · exact .inl List.mem_cons_self
    · exact (ih hrest).of_suffix (List.suffix_cons _ (c :: d :: others))
  | case8 e rest he hunderscore ih =>
    rcases List.mem_cons.1 h with rfl | hrest
    · exact .inr (.inl rfl)
    · exact (ih hrest).of_suffix (List.suffix_cons e rest)
  | case9 e rest he hunderscore ih =>
    rcases List.mem_cons.1 h with rfl | hrest
    · exact .inl List.mem_cons_self
    · exact (ih hrest).of_suffix (List.suffix_cons e rest)

end QuotedPrintable

/-! ## Pieces -/

namespace EncodedWord

variable {wide : Charset.Wide} {s t : Text} {piece : Piece} {c : Char}

/-- A piece as it stands in the field, a word without its end mark. -/
def Piece.source : Piece → Text
  | plain s => s
  | word w => w.source
  | broken s => s

/-- The octets that a piece is decoded from: none if it is plain. -/
def Piece.octets : Piece → Bytes
  | plain _ => []
  | word w => w.octets
  | broken s => QuotedPrintable.decode false (Latin1.encode s)

theorem startsMarker_of_splitAtMarker (s : Text) :
    (splitAtMarker s).2 = [] ∨ startsMarker (splitAtMarker s).2 = true := by
  induction s with
  | nil => exact .inl rfl
  | cons c s ih =>
    unfold splitAtMarker
    split
    · rename_i h
      exact .inr h
    · exact ih

theorem eq_cons_cons_of_startsMarker (h : startsMarker s = true) : ∃ t, s = '=' :: '?' :: t := by
  simp only [startsMarker, Bool.or_eq_true, List.isPrefixOf_iff_prefix] at h
  rcases h with ⟨t, rfl⟩ | ⟨t, rfl⟩ <;> exact ⟨_, rfl⟩

/-- A word that is read from a marker stands there as it is written. -/
theorem Word.source_append_of_read? {rest : Text} {w : Word} (hs : startsMarker s = true)
    (h : Word.read? s = some (w, rest)) : s = w.source ++ (['?', '='] ++ rest) := by
  obtain ⟨t, rfl⟩ := eq_cons_cons_of_startsMarker hs
  simp only [Word.read?, List.drop_succ_cons, List.drop_zero] at h
  split at h
  · rename_i charset encoding body hcut
    rcases Option.map_eq_some_iff.1 h with ⟨⟨payload, rest'⟩, hbody, heq⟩
    cases heq
    have houter := Text.append_of_cut? hcut
    have hinner := Text.append_of_cut? hbody
    rw [houter, hinner]
    simp [Word.source]
  · cases h

theorem skipGap_suffix (s : Text) : skipGap s <:+ s := by
  cases s with
  | nil => exact List.suffix_rfl
  | cons c s =>
    simp only [skipGap]
    split
    · exact List.suffix_cons c s
    · exact List.suffix_rfl

/-- **Every piece of a field stands in it.** -/
theorem source_infix_of_mem_pieces (h : piece ∈ pieces s) : piece.source <:+: s := by
  -- by induction along the cutting: the pieces after a word stand in what follows it
  fun_induction pieces s with
  | case1 s before hs =>
    have happend := splitAtMarker_append s
    rw [hs, List.append_nil] at happend
    have hsource : piece.source = s := by
      rw [List.mem_singleton.1 h]
      exact happend
    exact ⟨[], [], by rw [List.nil_append, List.append_nil, hsource]⟩
  | case2 s before c t hs hw =>
    have happend := splitAtMarker_append s
    rw [hs] at happend
    rw [← happend]
    rcases List.mem_cons.1 h with rfl | hbroken
    · exact (List.prefix_append before (c :: t)).isInfix
    · rw [List.mem_singleton.1 hbroken]
      exact (List.suffix_append before (c :: t)).isInfix
  | case3 s before c t hs w rest hw hlt ih =>
    have happend := splitAtMarker_append s
    have hmarker := startsMarker_of_splitAtMarker s
    rw [hs] at happend hmarker
    have hword := Word.source_append_of_read? (hmarker.resolve_left (List.cons_ne_nil c t)) hw
    rw [← happend, hword]
    rcases List.mem_cons.1 h with rfl | h
    · exact (List.prefix_append before _).isInfix
    · rcases List.mem_cons.1 h with rfl | hrest
      · exact ⟨before, ['?', '='] ++ rest, by rw [List.append_assoc]; rfl⟩
      · have hgap : skipGap rest <:+ before ++ (w.source ++ (['?', '='] ++ rest)) :=
          (skipGap_suffix rest).trans (by simp only [← List.append_assoc, List.suffix_append])
        exact (ih hrest).trans hgap.isInfix

/-! ## Decoded fields -/

/-- No word of a text has a label with a NUL. -/
def Legible (s : Text) : Prop := ∀ w, .word w ∈ pieces s → '\x00' ∉ w.charset

theorem exists_text_iff (wide : Charset.Wide) (piece : Piece) :
    (∃ t, piece.text wide = .ok t) ↔ ∀ w, .word w = piece → '\x00' ∉ w.charset := by
  cases piece with
  | plain s => exact ⟨fun _ => nofun, fun _ => ⟨s, rfl⟩⟩
  | broken s => exact ⟨fun _ => nofun, fun _ => ⟨_, rfl⟩⟩
  | word w =>
    simp only [Piece.text, Charset.decodeNamed_eq_ok_iff, Piece.word.injEq, forall_eq]
    exact ⟨fun ⟨_, hnul, _⟩ => hnul, fun hnul => ⟨_, hnul, rfl⟩⟩

theorem decode_eq_ok_iff :
    decode wide s = .ok t ↔
      ∃ texts, (pieces s).mapM (Piece.text wide) = .ok texts ∧ t = Text.trim texts.flatten := by
  rw [decode, Outcome.bind_eq_ok_iff]
  constructor
  · rintro ⟨texts, htexts, heq⟩
    cases heq
    exact ⟨texts, htexts, rfl⟩
  · rintro ⟨texts, htexts, rfl⟩
    exact ⟨texts, htexts, rfl⟩

theorem exists_decode_iff (wide : Charset.Wide) (s : Text) :
    (∃ t, decode wide s = .ok t) ↔ Legible s := by
  have hpieces : (∃ texts, (pieces s).mapM (Piece.text wide) = .ok texts) ↔
      ∀ piece ∈ pieces s, ∃ t, piece.text wide = .ok t :=
    Outcome.exists_mapM_iff
  simp only [exists_text_iff] at hpieces
  constructor
  · rintro ⟨t, ht⟩ w hw
    obtain ⟨texts, htexts, -⟩ := decode_eq_ok_iff.1 ht
    exact hpieces.1 ⟨texts, htexts⟩ _ hw w rfl
  · intro h
    obtain ⟨texts, htexts⟩ := hpieces.2 fun piece hpiece w hw => h w (hw ▸ hpiece)
    exact ⟨_, decode_eq_ok_iff.2 ⟨texts, htexts, rfl⟩⟩

theorem pieces_nil : pieces [] = [.plain []] := by
  unfold pieces
  rfl

theorem legible_nil : Legible [] := by
  intro w hw
  rw [pieces_nil] at hw
  simp at hw

/-- What an encoded word begins with. -/
def markers : List Text := ["=?ISO-".toList, "=?iso-".toList]

/-- No encoded word begins in a text. -/
def Unmarked (s : Text) : Prop := ∀ mark ∈ markers, ¬ mark <:+: s

instance (s : Text) : Decidable (Unmarked s) :=
  inferInstanceAs (Decidable (∀ mark ∈ markers, _))

theorem startsMarker_iff (s : Text) : startsMarker s = true ↔ ∃ mark ∈ markers, mark <+: s := by
  simp [startsMarker, markers]

theorem splitAtMarker_of_unmarked (h : Unmarked s) : splitAtMarker s = (s, []) := by
  induction s with
  | nil => rfl
  | cons c s ih =>
    have hhere : ¬ startsMarker (c :: s) = true := by
      rw [startsMarker_iff]
      rintro ⟨mark, hmark, hbegin⟩
      exact h mark hmark hbegin.isInfix
    have hlater : Unmarked s := fun mark hmark hinfix =>
      h mark hmark (List.infix_cons hinfix)
    rw [splitAtMarker, if_neg hhere, ih hlater]

/-- **A field without an encoded word stands for itself**, trimmed. -/
theorem decode_of_unmarked (wide : Charset.Wide) (h : Unmarked s) :
    decode wide s = .ok (Text.trim s) := by
  have hsplit := splitAtMarker_of_unmarked h
  have hpieces : pieces s = [.plain s] := by
    unfold pieces
    split <;> rename_i hs <;> rw [hsplit] at hs <;> cases hs
    rfl
  rw [decode_eq_ok_iff, hpieces]
  exact ⟨[s], rfl, by simp⟩

/-- A piece that is not plain stands for a character. In a wide set its text has the character; in any
other, for a character of ASCII, that is to say that its octets have the one of the character. -/
def Piece.Hides (wide : Charset.Wide) (c : Char) : Piece → Prop
  | plain _ => False
  | word w =>
    match Charset.wideReading? wide w.charset with
    | some reading => c ∈ reading w.octets
    | none => QuotedPrintable.ascii c ∈ w.octets
  | broken s => QuotedPrintable.ascii c ∈ (broken s).octets

instance (wide : Charset.Wide) (c : Char) (piece : Piece) : Decidable (piece.Hides wide c) :=
  match piece with
  | .plain _ => inferInstanceAs (Decidable False)
  | .word w =>
    match h : Charset.wideReading? wide w.charset with
    | some reading => decidable_of_iff (c ∈ reading w.octets) (by rw [Piece.Hides, h])
    | none => decidable_of_iff (QuotedPrintable.ascii c ∈ w.octets) (by rw [Piece.Hides, h])
  | .broken s => inferInstanceAs (Decidable (QuotedPrintable.ascii c ∈ (Piece.broken s).octets))

/-- Some piece of a field that is not plain stands for a character. -/
def Hides (wide : Charset.Wide) (c : Char) (s : Text) : Prop := ∃ piece ∈ pieces s, piece.Hides wide c

instance (wide : Charset.Wide) (c : Char) (s : Text) : Decidable (Hides wide c s) :=
  inferInstanceAs (Decidable (∃ piece ∈ pieces s, piece.Hides wide c))

/-- No word of a field is in a wide set. -/
def Narrow (wide : Charset.Wide) (s : Text) : Prop :=
  ∀ w, .word w ∈ pieces s → Charset.wideReading? wide w.charset = none

theorem mem_read_iff (hc : c.toNat < 0x80) (w : Word) :
    c ∈ Charset.read wide w.charset w.octets ↔ (Piece.word w).Hides wide c := by
  rw [Charset.read, Piece.Hides]
  cases Charset.wideReading? wide w.charset with
  | some reading => exact Iff.rfl
  | none => exact Charset.mem_decode_iff _ hc _

theorem mem_text_iff (hc : c.toNat < 0x80) (hsource : c ∉ piece.source)
    (h : piece.text wide = .ok t) : c ∈ t ↔ piece.Hides wide c := by
  cases piece with
  | plain s =>
    cases h
    exact iff_of_false hsource not_false
  | word w =>
    rcases Charset.decodeNamed_eq_ok_iff.1 h with ⟨-, rfl⟩
    exact mem_read_iff hc w
  | broken s =>
    cases h
    exact Charset.mem_decode_iff .latin1 hc _

/-- **What a decoded field shows that the field does not have, some piece hides.** -/
theorem mem_decode_iff (hc : c.toNat < 0x80) (hblank : Text.isBlank c = false) (hs : c ∉ s)
    (h : decode wide s = .ok t) : c ∈ t ↔ Hides wide c s := by
  rcases decode_eq_ok_iff.1 h with ⟨texts, htexts, rfl⟩
  have hpieces : (∃ text ∈ texts, c ∈ text) ↔
      ∃ piece ∈ pieces s, ∃ text, piece.text wide = .ok text ∧ c ∈ text :=
    Outcome.exists_mem_iff_of_mapM htexts
  have hall : ∀ piece ∈ pieces s, ∃ text, piece.text wide = .ok text :=
    Outcome.exists_mapM_iff.1 ⟨texts, htexts⟩
  have hsource : ∀ piece ∈ pieces s, c ∉ piece.source := by
    intro piece hpiece hmem
    exact hs ((source_infix_of_mem_pieces hpiece).subset hmem)
  rw [Text.trim, Text.mem_stripBy_iff hblank, List.mem_flatten, hpieces]
  constructor
  · rintro ⟨piece, hpiece, text, htext, hmem⟩
    exact ⟨piece, hpiece, (mem_text_iff hc (hsource piece hpiece) htext).1 hmem⟩
  · rintro ⟨piece, hpiece, hhides⟩
    obtain ⟨text, htext⟩ := hall piece hpiece
    exact ⟨piece, hpiece, text, htext, (mem_text_iff hc (hsource piece hpiece) htext).2 hhides⟩

/-- A stretch of a field is decoded to an octet that it lacks only by spelling it. -/
theorem spelled_of_mem_decode {header : Bool} (hc : c.toNat < 0x80) (hmark : c ≠ '?')
    (hblank : Text.isBlank c = false) (hs : c ∉ s) (hstretch : t <:+: s)
    (h : QuotedPrintable.ascii c ∈ QuotedPrintable.decode header (Latin1.encode t)) :
    QuotedPrintable.Spells (QuotedPrintable.ascii c) (Latin1.encode s) := by
  rcases QuotedPrintable.arises_of_mem_decode h with hmem | heq | hspells
  · exact absurd (hstretch.subset (Latin1.mem_of_ascii_mem_encode hc hmark hmem)) hs
  · rw [QuotedPrintable.eq_of_ascii_eq hc (by decide) heq] at hblank
    cases hblank
  · exact hspells.mono (hstretch.map Latin1.octet)

theorem Word.payload_infix_source (w : Word) : w.payload <:+: w.source :=
  ⟨'=' :: '?' :: w.charset ++ ['?', w.encoding, '?'], [], by simp [Word.source]⟩

/-- **What a field hides it spells** in an escape of two hexadecimal digits, if no word of it is in a
wide set. -/
theorem spelled_of_hides (hc : c.toNat < 0x80) (hmark : c ≠ '?')
    (hblank : Text.isBlank c = false) (hs : c ∉ s) (hnarrow : Narrow wide s) (h : Hides wide c s) :
    QuotedPrintable.Spells (QuotedPrintable.ascii c) (Latin1.encode s) := by
  rcases h with ⟨piece, hpiece, hmem⟩
  have hstretch := source_infix_of_mem_pieces hpiece
  cases piece with
  | plain s => cases hmem
  | broken s => exact spelled_of_mem_decode hc hmark hblank hs hstretch hmem
  | word w =>
    simp only [Piece.Hides, hnarrow w hpiece, Word.octets] at hmem
    split at hmem
    · have hpayload := w.payload_infix_source.trans hstretch
      exact spelled_of_mem_decode hc hmark hblank hs hpayload hmem
    · exact spelled_of_mem_decode hc hmark hblank hs hstretch hmem

end EncodedWord
end SearchClient
