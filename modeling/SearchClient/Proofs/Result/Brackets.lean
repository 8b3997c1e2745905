import SearchClient.Proofs.Display.Segments
import SearchClient.Proofs.Result.Legible

/-!
# Angle brackets in records

Escaping takes every angle bracket from a field, but encoded words are decoded after it, and what
they stand for is not escaped again. So an angle bracket is shown exactly if an encoded word of the
field hides it (`Record.shown_brackets`), whatever wide character sets there are. A field without a
word in one of these that does not spell `<` or `>` in an escape of two hexadecimal digits shows
neither, and the markers around highlighted terms are then the only markup. In a wide set a word may
hide a bracket that it does not spell, and spell one that it does not hide (`Record.sampleWide`).
-/

namespace SearchClient

/-- The escaping of `Markup.html` with no markers around highlighted terms. -/
def Markup.unmarked : Markup := { opening := [], closing := [], escaping := .entities }

namespace Record

open EncodedWord

variable {wide : Charset.Wide} {terms : List Text} {line raw t : Text} {c : Char}

/-- The field of a line as it is decoded. -/
def escapedField (tag line : Text) : Text := Escaping.entities.apply (field tag line)

theorem mem_clean_iff (hc : IsAngle c) (h : clean { Markup.unmarked with wide } raw = .ok t) :
    c ∈ t ↔ Hides wide c (Escaping.entities.apply raw) :=
  mem_decode_iff hc.toNat_lt hc.isBlank_eq_false (Escaping.not_mem_entities hc raw) h

theorem not_hides_nil (wide : Charset.Wide) (c : Char) : ¬ Hides wide c [] := by
  rintro ⟨piece, hpiece, hmem⟩
  rw [pieces_nil, List.mem_singleton] at hpiece
  rw [hpiece] at hmem
  cases hmem

theorem mem_authorOf_iff (hc : IsAngle c) {author : Text}
    (h : authorOf { Markup.unmarked with wide } author = .ok t) :
    c ∈ t ↔ Hides wide c (Escaping.entities.apply author) := by
  cases author with
  | nil =>
    cases h
    exact iff_of_false List.not_mem_nil (not_hides_nil wide c)
  | cons d s => exact mem_clean_iff hc h

theorem mem_titleOf_iff (hc : IsAngle c) {title filename : Text}
    (h : titleOf { Markup.unmarked with wide } title filename = .ok t) :
    c ∈ t ↔ Hides wide c (Escaping.entities.apply title) := by
  cases title with
  | nil =>
    cases h
    exact iff_of_false (Escaping.not_mem_entities hc _) (not_hides_nil wide c)
  | cons d s => exact mem_clean_iff hc h

/-! ## Titles -/

theorem mem_of_mem_truncateTitle (hc : IsAngle c) (h : c ∈ truncateTitle t) : c ∈ t := by
  unfold truncateTitle at h
  split at h
  · exact h
  · rcases List.mem_append.1 h with htaken | hdots
    · exact List.mem_of_mem_take htaken
    · rcases hc with rfl | rfl <;> simp at hdots

/-- A title that was cut is longer than any that was not. -/
theorem eq_of_length_truncateTitle (h : (truncateTitle t).length ≤ maxTitle) :
    truncateTitle t = t := by
  unfold truncateTitle at h ⊢
  split
  · rfl
  · rename_i hlong
    rw [if_neg hlong, List.length_append, List.length_take, List.length_cons] at h
    omega

/-! ## Records -/

theorem highlight_unmarked (wide : Charset.Wide) (terms : List Text) (s : Text) :
    highlight { Markup.unmarked with wide } terms s = s :=
  (Highlight.marked_highlight { Markup.unmarked with wide } terms s).eq_of_no_markers rfl rfl

/-- **The angle brackets of a record** are those that encoded words hide, whatever wide character sets
there are. Each of these is spelled in its field if no word of it is in a wide set, a title of which no
more than a part is shown may cut some off, and highlighting adds its markers and nothing else. -/
theorem shown_brackets (wide : Charset.Wide) {r : Record}
    (h : ofLine { Markup.unmarked with wide } terms line = .ok r) (hc : IsAngle c) :
    (c ∈ r.author ↔ Hides wide c (escapedField "author".toList line)) ∧
      (c ∈ r.snippet ↔ Hides wide c (escapedField "snippet".toList line)) ∧
      (c ∈ r.title → Hides wide c (escapedField "title".toList line)) ∧
      (r.title.length ≤ maxTitle → Hides wide c (escapedField "title".toList line) → c ∈ r.title) ∧
      (∀ tag, Narrow wide (escapedField tag line) → Hides wide c (escapedField tag line) →
        QuotedPrintable.Spells (QuotedPrintable.ascii c)
          (Latin1.encode (escapedField tag line))) ∧
      ∃ shown, ofLine { Markup.html with wide } terms line = .ok shown ∧ shown.author = r.author ∧
        Highlight.Marked { Markup.html with wide } r.title shown.title ∧
        Highlight.Marked { Markup.html with wide } r.snippet shown.snippet := by
  rcases ofLine_eq_ok_iff.1 h with ⟨author, title, snippet, hauthor, htitle, hsnippet, rfl⟩
  simp only [assemble, highlight_unmarked]
  refine ⟨mem_authorOf_iff hc hauthor, mem_clean_iff hc hsnippet, ?_, ?_, ?_, ?_⟩
  · intro hmem
    exact (mem_titleOf_iff hc htitle).1 (mem_of_mem_truncateTitle hc hmem)
  · intro hshort hhides
    rw [eq_of_length_truncateTitle hshort]
    exact (mem_titleOf_iff hc htitle).2 hhides
  · intro tag hnarrow hhides
    have hs := Escaping.not_mem_entities hc (field tag line)
    exact spelled_of_hides hc.toNat_lt hc.ne_mark hc.isBlank_eq_false hs hnarrow hhides
  · -- both markups escape and read words alike, so the same fields are highlighted
    let html : Markup := { Markup.html with wide }
    have hshown : ofLine html terms line = .ok (assemble html terms line author title snippet) :=
      ofLine_eq_ok_iff.2 ⟨author, title, snippet, hauthor, htitle, hsnippet, rfl⟩
    exact ⟨_, hshown, rfl, Highlight.marked_highlight html terms _,
      Highlight.marked_highlight html terms _⟩

/-- How two wide sets read the octets of one word each. In the first of them the octet of `<` is a half
of a character, and in the second an octet beyond ASCII is the character itself. -/
def sampleWide (label : Text) : Option (Bytes → Text) :=
  if label = "ISO-2022-JP".toList then
    some fun octets =>
      if octets = [0x1B, 0x24, 0x42, 0x3C, 0x21, 0x1B, 0x28, 0x42] then ['次'] else Latin1.decode octets
  else if label = "ISO-2022-JP-2".toList then
    some fun octets =>
      if octets = [0x1B, 0x2E, 0x46, 0x1B, 0x4E, 0xBC] then ['<'] else Latin1.decode octets
  else none

/-- A bracket in the author's name is escaped, one in an encoded word of the snippet is shown, one that
a wide set reads as a half of a character is not, and one that a wide set makes of another octet is. -/
theorem shown_brackets_sample :
    let line := ("<author>a<b =?ISO-2022-JP?Q?=1B$B=3C=21=1B(B?=</author>" ++
      "<title>=?ISO-2022-JP-2?Q?=1B.F=1BN=BC?=</title>" ++
      "<snippet>x =?ISO-8859-1?Q?=3C?= y</snippet>").toList
    ∃ r, ofLine { Markup.unmarked with wide := sampleWide } [['y']] line = .ok r ∧
      '<' ∉ r.author ∧ '<' ∈ r.title ∧ '<' ∈ r.snippet := by
  intro line
  let unmarked : Markup := { Markup.unmarked with wide := sampleWide }
  have hlength : (ofLine unmarked [['y']] line).toOption.any
      (fun r => r.title.length ≤ maxTitle) = true := by decide +kernel
  cases hline : ofLine unmarked [['y']] line with
  | error failure =>
    rw [hline] at hlength
    cases hlength
  | ok r =>
    rw [hline] at hlength
    have hshort : r.title.length ≤ maxTitle := of_decide_eq_true hlength
    rcases shown_brackets sampleWide hline (.inl rfl) with ⟨hauthor, hsnippet, -, htitle, -⟩
    refine ⟨r, rfl, ?_, htitle hshort (by decide +kernel), hsnippet.2 (by decide +kernel)⟩
    intro hmem
    exact absurd (hauthor.1 hmem) (by decide +kernel)

/-- An encoded word makes a tag of its own in the title. -/
theorem shown_brackets_of_word :
    let line := "<title>=?ISO-8859-1?Q?=3Cb=3E?=</title>".toList
    ∃ r, ofLine .unmarked [] line = .ok r ∧ r.title = "<b>".toList := by
  intro line
  have htitle : (ofLine .unmarked [] line).toOption.map title = some "<b>".toList := by
    decide +kernel
  cases hline : ofLine .unmarked [] line with
  | error failure =>
    rw [hline] at htitle
    cases htitle
  | ok r =>
    rw [hline] at htitle
    exact ⟨r, rfl, Option.some.inj htitle⟩

end Record
end SearchClient
