import SearchClient.CommandLine.Report
import SearchClient.Proofs.Console.Kept
import SearchClient.Proofs.Number.Numeral

/-!
# What an index summary prints

A line of a report is woven from literal text, fields of the daemon's, each escaped on its own, and
stretches in bold. Escaping keeps a field from acting as markup, but not from beginning a tag that
ends in a later field of the line. A literal left bracket between the fields prevents that, so only
the line about the whole index is open to it.

1. `CommandLine.Woven` are the lines whose fields stay apart, and `CommandLine.Woven.shows` says that
   they render and show their fields;
2. `CommandLine.shows_rootReport`, `CommandLine.shows_countReport` and
   `CommandLine.shows_userReport` are about the lines that always print;
3. `Coverage.Seamless` is what the line about the whole index needs, and
   `CommandLine.render_masterMarkup_iff` says that it needs no less;
4. `CommandLine.summary_printed` puts the lines together.
-/

namespace SearchClient

/-! ## Coverage -/

namespace Coverage

open Console

/-- The fields of a line about coverage. -/
def fields (k : Coverage) : List Text := [k.filesystem, k.files, k.directories]

/-- The fields of the line about the whole index, each written in a way, and the words between
them. -/
def told (write : Text → Text) (k : Coverage) : Text :=
  write k.filesystem ++ (", containing ".toList ++ (write k.files ++ (" and ".toList ++
    (write k.directories ++ ['.']))))

/-- The words before them. -/
def heading : Text := "Contents of Local Index  Index covers ".toList

/-- The line about the whole index as it is to be read. -/
def sentence (k : Coverage) : Text := heading ++ k.told id

/-- No tag begins in one field of the line about the whole index and ends in another. -/
def Seamless (k : Coverage) : Prop :=
  ¬ Straddles (escape k.filesystem)
      (", containing ".toList ++ (escape k.files ++ (" and ".toList ++
        (escape k.directories ++ ['.'])))) ∧
    ¬ Straddles (escape k.files) (" and ".toList ++ (escape k.directories ++ ['.']))

theorem bare_told (k : Coverage) : bare (k.told escape) = bare (k.told id) := by
  have hescape : ∀ s, bare (escape s) = bare s := bare_escapedAfter 0
  rw [told, told]
  simp only [bare_append, hescape, id_eq]

theorem plain_sentence {k : Coverage} (h : ∀ field ∈ k.fields, Plain field) : Plain k.sentence := by
  obtain ⟨hfilesystem, hfiles, hdirectories⟩ :
      Plain k.filesystem ∧ Plain k.files ∧ Plain k.directories := by simpa [fields] using h
  have hheading : Plain heading := by decide
  have hcontaining : Plain ", containing ".toList := by decide
  have hand : Plain " and ".toList := by decide
  have hstop : Plain ['.'] := by decide
  exact hheading.append (hfilesystem.append (hcontaining.append (hfiles.append
    (hand.append (hdirectories.append hstop)))))

end Coverage

namespace CommandLine

open Console

variable {naming : Naming} {a b markup : Text} {fields inner : List Text}

/-! ## Woven lines -/

/-- Markup as a line of a report is woven, with the fields it is to show. -/
inductive Woven : Text → List Text → Prop where
  | nil : Woven [] []
  | literal {b : Text} {fields : List Text} (a : Text) (ha : Literal a) (rest : Woven b fields) :
      Woven (a ++ b) fields
  /-- A field, and literal text behind it. -/
  | field {b : Text} {fields : List Text} (f a : Text) (ha : Literal a) (hne : a ≠ [])
      (hseam : ¬ Straddles (escape f) (a ++ b)) (rest : Woven b fields) :
      Woven (escape f ++ (a ++ b)) (f :: fields)
  /-- A stretch in bold, with the fields in it. -/
  | bold {b : Text} {fields : List Text} (a : Text) (inner : List Text) (hquiet : Quiet 0 a)
      (hinner : ∀ field ∈ inner, '\\' ∉ field → field <:+: drawn 0 a) (rest : Woven b fields) :
      Woven (bold a ++ b) (inner ++ fields)

/-! ## Bold stretches -/

theorem isName_bold : IsName "bold".toList := by
  decide +kernel

theorem bold_eq (a : Text) : bold a = styled "bold".toList a :=
  rfl

/-! ## Showing the fields -/

/-- **A woven line renders, and shows its fields**, but for those with backslashes. -/
theorem Woven.shows (h : Woven markup fields) (stack : List Text) :
    ∃ shown, textAfter naming stack 0 markup = some shown ∧
      ∀ field ∈ fields, '\\' ∉ field → field <:+: shown := by
  induction h generalizing stack with
  | nil => exact ⟨[], textAfter_nil stack 0, nofun⟩
  | @literal b fields a ha _ ih =>
    obtain ⟨shown, hshown, hfields⟩ := ih stack
    by_cases hne : a = []
    · subst hne
      exact ⟨shown, hshown, hfields⟩
    refine ⟨a ++ shown, by rw [textAfter_literal ha hne, hshown]; rfl, fun field hmem hplain => ?_⟩
    exact (hfields field hmem hplain).trans (List.suffix_append a shown).isInfix
  | @field b fields f a ha hne hseam _ ih =>
    obtain ⟨shown, hshown, hfields⟩ := ih stack
    refine ⟨drawn 0 (escape f) ++ (backslashes (trailing 0 (escape f)) ++ a ++ shown), ?_, ?_⟩
    · rw [textAfter_append (quiet_escape f) hseam, textAfter_literal ha hne, hshown]
      rfl
    · intro field hmem hplain
      rcases List.mem_cons.1 hmem with rfl | hmem
      · rw [(drawn_escape_of_not_mem hplain).1]
        exact (List.prefix_append field _).isInfix
      · refine (hfields field hmem hplain).trans ?_
        rw [← List.append_assoc]
        exact (List.suffix_append _ shown).isInfix
  | @bold b fields a inner hquiet hinner _ ih =>
    -- the line goes on with the stretch closed, or still open
    have hgoes : ∀ (opened : List Text) (closing : Text),
        textAfter naming stack 0 (CommandLine.bold a ++ b) =
          (textAfter naming opened 0 b).map (drawn 0 a ++ closing ++ ·) →
        ∃ shown, textAfter naming stack 0 (CommandLine.bold a ++ b) = some shown ∧
          ∀ field ∈ inner ++ fields, '\\' ∉ field → field <:+: shown := by
      intro opened closing hbold
      obtain ⟨shown, hshown, hfields⟩ := ih opened
      refine ⟨drawn 0 a ++ closing ++ shown, by rw [hbold, hshown]; rfl, ?_⟩
      intro field hmem hplain
      rcases List.mem_append.1 hmem with hmem | hmem
      · rw [List.append_assoc]
        exact (hinner field hmem hplain).trans (List.prefix_append _ _).isInfix
      · exact (hfields field hmem hplain).trans (List.suffix_append _ shown).isInfix
    have hbold := textAfter_styled isName_bold hquiet naming stack b
    rw [← bold_eq] at hbold
    split at hbold
    · exact hgoes stack _ hbold
    · rw [List.append_assoc] at hbold
      exact hgoes _ _ hbold

/-! ## Prints -/

namespace Print

variable {naming : Naming} {p : Print} {prints : List Print} {text field : Text}
  {failure : Failure}

/-- A print has a text, and the plain ones among these fields are stretches of it. -/
def Shows (naming : Naming) (fields : List Text) (p : Print) : Prop :=
  ∃ text, p.text naming = .ok text ∧ ∀ field ∈ fields, Plain field → field <:+: text

/-- A field is a stretch of one of the texts, and also of what is printed for it where no line is too
long. -/
def Verbatim (field : Text) (texts : List Text) : Prop :=
  ∃ text ∈ texts, field <:+: text ∧ field <:+: unfolded text

theorem Verbatim.cons {texts : List Text} (h : Verbatim field texts) (text : Text) :
    Verbatim field (text :: texts) := by
  obtain ⟨other, hother, hwithin⟩ := h
  exact ⟨other, List.mem_cons_of_mem text hother, hwithin⟩

theorem texts_cons_of_ok (h : p.text naming = .ok text) (prints : List Print) :
    texts naming (p :: prints) = (text :: (texts naming prints).1, (texts naming prints).2) := by
  rw [texts, h]

theorem texts_cons_of_error (h : p.text naming = .error failure) (prints : List Print) :
    texts naming (p :: prints) = ([], some failure) := by
  rw [texts, h]

theorem texts_eq_none_iff :
    (texts naming (p :: prints)).2 = none ↔
      (∃ text, p.text naming = .ok text) ∧ (texts naming prints).2 = none := by
  cases hp : p.text naming with
  | error failure =>
    rw [texts_cons_of_error hp]
    exact ⟨nofun, fun ⟨⟨_, h⟩, _⟩ => by cases h⟩
  | ok text =>
    rw [texts_cons_of_ok hp]
    exact (and_iff_right ⟨text, rfl⟩).symm

/-- **Prints that have texts print them all.** -/
theorem texts_of_shows (h : ∀ p ∈ prints, p.Shows naming []) :
    (texts naming prints).2 = none ∧
      ∀ p ∈ prints, ∀ fields, p.Shows naming fields → ∀ field ∈ fields, Plain field →
        Verbatim field (texts naming prints).1 := by
  -- by induction on the prints: as none of them fails, all are reached
  induction prints with
  | nil => exact ⟨rfl, nofun⟩
  | cons q prints ih =>
    obtain ⟨text, hq, -⟩ := h q List.mem_cons_self
    obtain ⟨hnone, hfields⟩ := ih fun p hp => h p (List.mem_cons_of_mem q hp)
    rw [texts_cons_of_ok hq]
    refine ⟨hnone, fun p hp fields hshows field hmem hplain => ?_⟩
    rcases List.mem_cons.1 hp with rfl | hp
    · obtain ⟨text', htext', hinside⟩ := hshows
      rw [hq] at htext'
      cases htext'
      have hwithin := hinside field hmem hplain
      exact ⟨text, List.mem_cons_self, hwithin, hplain.infix_unfolded hwithin⟩
    · exact (hfields p hp fields hshows field hmem hplain).cons text

theorem Shows.mono (h : p.Shows naming fields) (hsub : inner ⊆ fields) : p.Shows naming inner := by
  obtain ⟨text, htext, hfields⟩ := h
  exact ⟨text, htext, fun field hmem => hfields field (hsub hmem)⟩

end Print

theorem Woven.print (naming : Naming) (h : Woven markup fields) :
    (Print.markup markup).Shows naming fields := by
  obtain ⟨shown, hshown, hfields⟩ := h.shows []
  have hrender : Console.render naming markup = .ok (printable shown) :=
    render_eq_ok_iff.2 ⟨shown, hshown, rfl⟩
  refine ⟨printable shown, hrender, ?_⟩
  intro field hmem hplain
  exact hplain.infix_printable (hfields field hmem hplain.no_backslash)

/-! ## The lines that always print -/

theorem Woven.boldField (f : Text) (rest : Woven b fields) :
    Woven (CommandLine.bold (escape f) ++ b) (f :: fields) := by
  refine .bold (escape f) [f] (quiet_escape f) ?_ rest
  intro field hmem hplain
  obtain rfl := List.mem_singleton.1 hmem
  rewrite [(drawn_escape_of_not_mem hplain).1]
  exact List.infix_rfl

theorem Woven.boldLiteral (ha : Literal a) (rest : Woven b fields) :
    Woven (CommandLine.bold a ++ b) fields :=
  .bold a [] ha.quiet.1 nofun rest

theorem shows_rootReport (root : Coverage) :
    (rootReport root).Shows naming [root.files, root.directories, root.filesystem] := by
  have hend : Woven (CommandLine.bold (escape root.filesystem) ++ []) [root.filesystem] :=
    .boldField root.filesystem .nil
  -- the bold name at the end of the line keeps the directories from ending a tag of theirs
  have hfield := Woven.field root.directories ") indexed for file system rooted at ".toList
    (by decide) (by decide) (not_straddles_of_closeBracket? rfl _) hend
  have hline := Woven.literal bullet (by decide)
    (.boldField root.files (.literal " (".toList (by decide) hfield))
  have hprint := hline.print naming
  simp only [← List.append_assoc, List.append_nil] at hprint
  exact hprint

theorem literal_plural (mimeType : Text) : Literal (TypeCount.plural mimeType) := by
  have hknown : Literal ((FileKind.describe? mimeType).getD "Unknown files".toList) := by
    have hall : ∀ kind ∈ FileKind.all, Literal kind.description := by decide
    rw [FileKind.describe?]
    cases hfind : FileKind.all.find? fun kind => kind.token == mimeType with
    | none => exact (by decide : Literal "Unknown files".toList)
    | some kind => exact hall kind (List.mem_of_find?_eq_some hfind)
  rw [TypeCount.plural]
  exact .ite (by decide) (.ite hknown (hknown.append (by decide)))

theorem literal_describe (mimeType : Text) (count : Int) :
    Literal (TypeCount.describe mimeType count) := by
  have hplural := literal_plural mimeType
  rw [TypeCount.describe]
  split
  · exact ⟨fun h => hplural.1 ((List.dropLast_sublist _).subset h),
      fun h => hplural.2 ((List.dropLast_sublist _).subset h)⟩
  · exact hplural

theorem shows_countReport (t : TypeCount)
    (hdescription : t.description = TypeCount.describe t.mimeType t.count) :
    (countReport t).Shows naming [t.mimeType] := by
  have hcount : Literal (Numeral.write t.count) :=
    ⟨Numeral.not_mem_write (by decide) (by decide), Numeral.not_mem_write (by decide) (by decide)⟩
  have hbold : Literal (Numeral.write t.count ++ ' ' :: t.description) := by
    rw [hdescription]
    exact hcount.append ((by decide : Literal [' ']).append (literal_describe _ _))
  have hfield := Woven.field t.mimeType [')'] (by decide) (by decide)
    (not_straddles_of_closeBracket? rfl _) .nil
  have hline := Woven.literal bullet (by decide)
    (.boldLiteral hbold (.literal " (".toList (by decide) hfield))
  have hprint := hline.print naming
  simp only [← List.append_assoc, List.append_nil] at hprint
  exact hprint

theorem shows_userReport (username : Text) :
    (Print.markup ("File type statistics (all files searchable by user ".toList ++
      bold (escape username) ++ "):".toList)).Shows naming [username] := by
  have hline := Woven.literal "File type statistics (all files searchable by user ".toList
    (by decide) (.boldField username (.literal "):".toList (by decide) .nil))
  have hprint := hline.print naming
  simp only [← List.append_assoc, List.append_nil] at hprint
  exact hprint

/-! ## The line about the whole index -/

/-- The markup of the line about the whole index. -/
def masterMarkup (k : Coverage) : Text :=
  bold "Contents of Local Index".toList ++ "  Index covers ".toList ++ escape k.filesystem ++
    ", containing ".toList ++ escape k.files ++ " and ".toList ++ escape k.directories ++ ['.']

/-- The prints below it. -/
def detailReport (summary : Summary) (username : Text) : List Print :=
  .blank :: (summary.roots.map rootReport ++
    [ .blank
    , .markup ("File type statistics (all files searchable by user ".toList ++
        bold (escape username) ++ "):".toList) ] ++
    (if summary.fileTypes.isEmpty then
      [.markup (bullet ++ "No searchable files in index.".toList)]
      else []) ++
    summary.fileTypes.map countReport)

theorem summaryReport_eq (summary : Summary) (username : Text) :
    summaryReport summary username =
      .markup (masterMarkup summary.master) :: detailReport summary username :=
  rfl

variable {k : Coverage}

theorem masterMarkup_eq (k : Coverage) :
    masterMarkup k =
      bold "Contents of Local Index".toList ++ ("  Index covers ".toList ++ k.told escape) := by
  simp only [masterMarkup, Coverage.told, List.append_assoc]

theorem shows_masterMarkup (h : k.Seamless) :
    (Print.markup (masterMarkup k)).Shows naming k.fields := by
  -- behind the last field there is no right bracket
  have hlast := Woven.field k.directories ['.'] (by decide) (by decide)
    (not_straddles_of_closeBracket? rfl _) .nil
  have hfields := Woven.field k.filesystem ", containing ".toList (by decide) (by decide) h.1
    (.field k.files " and ".toList (by decide) (by decide) h.2 hlast)
  have hline := Woven.boldLiteral (a := "Contents of Local Index".toList) (by decide)
    (.literal "  Index covers ".toList (by decide) hfields)
  rw [masterMarkup_eq]
  exact hline.print naming

/-- A field without backslashes is shown as it is, if no tag begins in it and ends behind it. -/
theorem textAfter_field {f : Text} (hf : '\\' ∉ f) (ha : Literal a) (hne : a ≠ [])
    (hseam : ¬ Straddles (escape f) (a ++ b)) (stack : List Text) :
    textAfter naming stack 0 (escape f ++ (a ++ b)) =
      (textAfter naming stack 0 b).map (f ++ a ++ ·) := by
  obtain ⟨hdrawn, htrailing⟩ := drawn_escape_of_not_mem hf
  rw [textAfter_append (quiet_escape f) hseam, hdrawn, htrailing, textAfter_literal ha hne,
    Option.map_map]
  congr 1
  funext t
  simp [backslashes]

theorem textAfter_masterMarkup (k : Coverage) :
    textAfter naming [] 0 (masterMarkup k) =
      (textAfter naming [] 0 (k.told escape)).map (Coverage.heading ++ ·) := by
  have hwords : Literal "Contents of Local Index".toList := by decide
  rw [masterMarkup_eq, bold_eq, textAfter_styled_literal isName_bold hwords,
    textAfter_literal (by decide) (by decide), Option.map_map]
  rfl

/-- **The line about the whole index shows its fields as they are exactly if it is seamless**, for
fields that are plain. -/
theorem render_masterMarkup_iff (hplain : ∀ field ∈ k.fields, Plain field) :
    Console.render naming (masterMarkup k) = .ok k.sentence ↔ k.Seamless := by
  obtain ⟨hfilesystem, hfiles, hdirectories⟩ :
      '\\' ∉ k.filesystem ∧ '\\' ∉ k.files ∧ '\\' ∉ k.directories := by
    refine ⟨?_, ?_, ?_⟩ <;> exact (hplain _ (by simp [Coverage.fields])).no_backslash
  have hheading : printable Coverage.heading = Coverage.heading := by decide
  rw [render_eq_ok_iff, textAfter_masterMarkup]
  constructor
  · rintro ⟨shown, hshown, hprinted⟩
    obtain ⟨text, htext, rfl⟩ := Option.map_eq_some_iff.1 hshown
    -- as many characters are shown as there are, so no tag acts
    have htold : printable text = k.told id := by
      rw [Coverage.sentence, printable_append, hheading] at hprinted
      exact List.append_cancel_left hprinted
    have hlength := length_bare_printable_le text
    rw [htold, ← Coverage.bare_told] at hlength
    have hquiet := (length_bare_textAfter htext).2 hlength
    obtain ⟨hfirst, hbehind⟩ := not_straddles_of_quiet hfilesystem hquiet
    have hsecond := (quiet_literal (by decide) _).1 hbehind
    exact ⟨hfirst, (not_straddles_of_quiet hfiles hsecond).1⟩
  · intro h
    have hlast : ¬ Straddles (escape k.directories) (['.'] ++ []) :=
      not_straddles_of_closeBracket? rfl _
    have htold : textAfter naming [] 0 (k.told escape) = some (k.told id) := by
      rw [Coverage.told, textAfter_field hfilesystem (by decide) (by decide) h.1,
        textAfter_field hfiles (by decide) (by decide) h.2, ← List.append_nil ['.'],
        textAfter_field hdirectories (by decide) (by decide) hlast, textAfter_nil]
      simp [Coverage.told, backslashes]
    exact ⟨k.sentence, by rw [htold]; rfl, (Coverage.plain_sentence hplain).printable_eq⟩

/-! ## The summary -/

variable (naming) {summary : Summary} (username : Text)

/-- The print of a root, of a count, or one with no field of the summary in it. -/
theorem shows_detailReport
    (hdescriptions : ∀ t ∈ summary.fileTypes,
      t.description = TypeCount.describe t.mimeType t.count) :
    ∀ p ∈ detailReport summary username, p.Shows naming [] := by
  have hblank : Print.blank.Shows naming [] := ⟨[], rfl, nofun⟩
  have hnone : (Print.markup (bullet ++ "No searchable files in index.".toList)).Shows naming [] := by
    have hline := Woven.literal bullet (by decide)
      (.literal "No searchable files in index.".toList (by decide) .nil)
    rw [List.append_nil] at hline
    exact hline.print naming
  intro p hp
  simp only [detailReport, List.mem_cons, List.mem_append, List.mem_map, List.not_mem_nil,
    or_false] at hp
  rcases hp with rfl | ((⟨root, -, rfl⟩ | rfl | rfl) | hp) | ⟨t, ht, rfl⟩
  · exact hblank
  · exact (shows_rootReport root).mono (List.nil_subset _)
  · exact hblank
  · exact (shows_userReport username).mono (List.nil_subset _)
  · split at hp
    · rw [List.mem_singleton.1 hp]
      exact hnone
    · cases hp
  · exact (shows_countReport t (hdescriptions t ht)).mono (List.nil_subset _)

/-- **The lines below print whatever they are about**, and show the plain fields of the roots and the
plain types. -/
theorem detailReport_printed
    (hdescriptions : ∀ t ∈ summary.fileTypes,
      t.description = TypeCount.describe t.mimeType t.count) :
    (Print.texts naming (detailReport summary username)).2 = none ∧
      ∀ field ∈ summary.roots.flatMap Coverage.fields ++ summary.fileTypes.map TypeCount.mimeType,
        Plain field → Print.Verbatim field (Print.texts naming (detailReport summary username)).1 := by
  obtain ⟨hnone, hshows⟩ :=
    Print.texts_of_shows (shows_detailReport naming username hdescriptions)
  refine ⟨hnone, fun field hmem hplain => ?_⟩
  rcases List.mem_append.1 hmem with hroots | htypes
  · obtain ⟨root, hroot, hfield⟩ := List.mem_flatMap.1 hroots
    have hprint : rootReport root ∈ detailReport summary username := by
      simp only [detailReport, List.mem_cons, List.mem_append, List.mem_map]
      exact .inr (.inl (.inl (.inl ⟨root, hroot, rfl⟩)))
    have hshown : (rootReport root).Shows naming root.fields :=
      (shows_rootReport root).mono (by simp [Coverage.fields])
    exact hshows _ hprint _ hshown field hfield hplain
  · obtain ⟨t, ht, rfl⟩ := List.mem_map.1 htypes
    have hprint : countReport t ∈ detailReport summary username := by
      simp only [detailReport, List.mem_cons, List.mem_append, List.mem_map]
      exact .inr (.inr ⟨t, ht, rfl⟩)
    exact hshows _ hprint _ (shows_countReport t (hdescriptions t ht)) t.mimeType
      List.mem_cons_self hplain

/-- The descriptions of a summary are those of its types. -/
theorem description_of_mem_indexSummary {client : Client} {t : TypeCount}
    (h : t ∈ client.indexSummary.1.fileTypes) :
    t.description = TypeCount.describe t.mimeType t.count := by
  obtain ⟨line, -, hline⟩ := List.mem_filterMap.1 h
  rw [TypeCount.ofLine?] at hline
  split at hline
  · obtain ⟨count, -, rfl⟩ := Option.map_eq_some_iff.1 hline
    rfl
  · cases hline

/-- **What an index summary prints**, whatever the daemon replies, whoever asks and however the console
names its styles. It fails exactly
if the line about the whole index does not render. If that line is seamless, the summary does not
fail and every plain field of it, of a root's line and every plain type stands as it is in the text of
one of the prints; and if it only does not fail, those below the line do. The condition is the right
one: a line of plain fields reads as it is to be read exactly if it is seamless. -/
theorem summary_printed (naming : Naming) (c : Client) (username : Text) :
    let summary := c.indexSummary.1
    let printed := Print.texts naming (summaryReport summary username)
    (printed.2 = none ↔ ∃ shown, Console.render naming (masterMarkup summary.master) = .ok shown) ∧
    (summary.master.Seamless →
      printed.2 = none ∧
        ∀ field ∈ (summary.master :: summary.roots).flatMap Coverage.fields ++
            summary.fileTypes.map TypeCount.mimeType,
          Plain field → Print.Verbatim field printed.1) ∧
    (printed.2 = none →
      ∀ field ∈ summary.roots.flatMap Coverage.fields ++ summary.fileTypes.map TypeCount.mimeType,
        Plain field → Print.Verbatim field printed.1) ∧
    ((∀ field ∈ summary.master.fields, Plain field) →
      (Console.render naming (masterMarkup summary.master) = .ok summary.master.sentence ↔
        summary.master.Seamless)) := by
  intro summary printed
  obtain ⟨hnone, hdetails⟩ :=
    detailReport_printed naming username fun t (ht : t ∈ summary.fileTypes) =>
      description_of_mem_indexSummary ht
  let line : Print := .markup (masterMarkup summary.master)
  have hreport : printed = Print.texts naming (line :: detailReport summary username) :=
    congrArg (Print.texts naming) (summaryReport_eq summary username)
  have hrendered : printed.2 = none ↔ ∃ text, line.text naming = .ok text := by
    rw [hreport]
    exact Print.texts_eq_none_iff.trans (and_iff_left hnone)
  have hprinted : ∀ text, line.text naming = .ok text →
      printed.1 = text :: (Print.texts naming (detailReport summary username)).1 := by
    intro text htext
    rw [hreport, Print.texts_cons_of_ok htext]
  -- the lines below the first print whatever they are about, once that one does
  have hbelow : printed.2 = none →
      ∀ field ∈ summary.roots.flatMap Coverage.fields ++ summary.fileTypes.map TypeCount.mimeType,
        Plain field → Print.Verbatim field printed.1 := by
    intro hdone field hmem hplain
    obtain ⟨text, htext⟩ := hrendered.1 hdone
    rw [hprinted text htext]
    exact (hdetails field hmem hplain).cons text
  refine ⟨hrendered, fun hseamless => ?_, hbelow, fun hplain => render_masterMarkup_iff hplain⟩
  obtain ⟨text, htext, hfields⟩ := shows_masterMarkup hseamless
  have hdone : printed.2 = none := hrendered.2 ⟨text, htext⟩
  refine ⟨hdone, fun field hmem hplain => ?_⟩
  rw [List.flatMap_cons, List.append_assoc] at hmem
  rcases List.mem_append.1 hmem with hmaster | hmem
  · have hwithin := hfields field hmaster hplain
    rw [hprinted text htext]
    exact ⟨text, List.mem_cons_self, hwithin, hplain.infix_unfolded hwithin⟩
  · exact hbelow hdone field hmem hplain

/-- The fields of the whole index hold brackets that would make tags, but none of them begins one
that another ends. -/
theorem summary_printed_sample :
    let account : Account :=
      { host := "localhost".toList, port := 1234, username := "anna".toList, password := []
        connectTimeout := none, readTimeout := none }
    let daemon : Daemon :=
      { turns := ["@0-Hello\n", "@0-Ok\n", "[/]\t[12] of [b\t[/bold]\n[x\ty]\n@0-Ok\n",
          "[b]: 1\n@0-Ok\n"].map fun octets => { octets := Latin1.encode octets.toList } }
    let c := (Client.start account { daemon }).2
    let printed := Print.texts .plain (summaryReport c.indexSummary.1 [])
    c.indexSummary.1.master.fields = ["[/]", "[12] of [b", "[/bold]"].map String.toList ∧
      printed.2 = none ∧ Print.Verbatim "[12] of [b".toList printed.1 ∧
      Print.Verbatim "[b]".toList printed.1 := by
  intro account daemon c printed
  have hmaster : c.indexSummary.1.master =
      ⟨"[/]".toList, "[12] of [b".toList, "[/bold]".toList⟩ := by decide +kernel
  have hcounts : c.indexSummary.1.fileTypes.map TypeCount.mimeType = ["[b]".toList] := by
    decide +kernel
  have hseamless : c.indexSummary.1.master.Seamless := by
    rw [hmaster]
    exact ⟨not_straddles_of_closeBracket? (by decide +kernel) _,
      not_straddles_of_closeBracket? (by decide +kernel) _⟩
  obtain ⟨hdone, hfields⟩ := (summary_printed .plain c []).2.1 hseamless
  refine ⟨by rw [hmaster]; rfl, hdone, hfields _ ?_ (by decide), hfields _ ?_ (by decide)⟩
  · rw [List.flatMap_cons, hmaster]
    simp [Coverage.fields]
  · rw [hcounts]
    simp

/-- A tag that begins in the first field and ends in the second closes nothing that is open, and the
summary prints nothing. -/
theorem summary_fails_on_split_tag :
    let account : Account :=
      { host := "localhost".toList, port := 1234, username := "anna".toList, password := []
        connectTimeout := none, readTimeout := none }
    let daemon : Daemon :=
      { turns := ["@0-Hello\n", "@0-Ok\n", "[/x\ty]\tz\n@0-Ok\n", "@0-Ok\n"].map fun octets =>
          { octets := Latin1.encode octets.toList } }
    let c := (Client.start account { daemon }).2
    c.ready = true ∧ (∀ field ∈ c.indexSummary.1.master.fields, Plain field) ∧
      Print.texts .plain (summaryReport c.indexSummary.1 []) =
        ([], some (.unmatchedTag "[/x, containing y]".toList 51)) := by
  decide +kernel

end CommandLine
end SearchClient
