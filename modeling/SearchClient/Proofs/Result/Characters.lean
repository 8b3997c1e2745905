import SearchClient.Proofs.Display.Entities
import SearchClient.Proofs.Result.Legible

/-!
# The document's own characters in a record

A field without an encoded word is escaped, and nothing else is done to it before a long title is
cut and the terms are highlighted. Both take the escaped field for plain characters. So a record
shows the characters of the document, unless the cut splits an entity or a term begins or ends in
the name of one (`Record.shown_characters`), and either of these does happen
(`Record.shown_characters_of_split`).
-/

namespace SearchClient

/-! ## Fields without encoded words -/

namespace EncodedWord

open Escaping

variable {mark s t w : Text} {c : Char}

/-- The characters of the entities. -/
def entityChars : Text := ['&', 'l', 'g', 't', ';']

theorem not_mem_marker (hmark : mark ∈ markers) (hc : c ∈ entityChars) : c ∉ mark := by
  simp only [markers, entityChars, List.mem_cons, List.not_mem_nil, or_false] at hmark hc
  rcases hmark with rfl | rfl <;> rcases hc with rfl | rfl | rfl | rfl | rfl <;> decide

theorem mem_entityChars (hc : IsAngle c) {d : Char} (hd : d ∈ entity c) : d ∈ entityChars := by
  rcases hc with rfl | rfl <;> simp [entity, entityChars] at hd ⊢ <;> tauto

theorem infix_of_infix_append (hne : mark ≠ []) (hfree : ∀ c ∈ w, c ∉ mark)
    (h : mark <:+: w ++ t) : mark <:+: t := by
  induction w with
  | nil => exact h
  | cons c w ih =>
    rcases List.infix_cons_iff.1 h with hbegin | hlater
    · obtain ⟨m, mark, rfl⟩ := List.exists_cons_of_ne_nil hne
      obtain ⟨rfl, -⟩ := List.cons_prefix_cons.1 hbegin
      exact absurd List.mem_cons_self (hfree m List.mem_cons_self)
    · exact ih (fun d hd => hfree d (List.mem_cons_of_mem c hd)) hlater

theorem begins_of_begins_entities (hfree : ∀ c ∈ entityChars, c ∉ mark)
    (h : mark <+: entities.apply s) : mark <+: s := by
  induction mark generalizing s with
  | nil => exact List.nil_prefix
  | cons m mark ih =>
    cases s with
    | nil => exact h
    | cons c s =>
      by_cases hc : IsAngle c
      · obtain ⟨name, -, hescaped⟩ := entities_cons_of_isAngle hc s
        rw [hescaped] at h
        obtain ⟨rfl, -⟩ := List.cons_prefix_cons.1 h
        exact absurd List.mem_cons_self (hfree '&' (by decide))
      · rw [entities_cons_of_not_isAngle hc] at h
        obtain ⟨rfl, hrest⟩ := List.cons_prefix_cons.1 h
        have hrest' := ih (fun d hd hmem => hfree d hd (List.mem_cons_of_mem m hmem)) hrest
        exact List.cons_prefix_cons.2 ⟨rfl, hrest'⟩

/-- Escaping makes no marker, as no marker shares a character with an entity. -/
theorem unmarked_entities (h : Unmarked s) : Unmarked (entities.apply s) := by
  intro mark hmark
  have hfree : ∀ c ∈ entityChars, c ∉ mark := fun c hc => not_mem_marker hmark hc
  have hne : mark ≠ [] := by
    rintro rfl
    exact absurd hmark (by decide)
  have hnot := h mark hmark
  clear h
  induction s with
  | nil => exact hnot
  | cons c s ih =>
    intro hinfix
    have hlater : ¬ mark <:+: s := fun h => hnot (List.infix_cons h)
    by_cases hc : IsAngle c
    · exact ih hlater (infix_of_infix_append hne
        (fun d hd => hfree d (mem_entityChars hc hd)) hinfix)
    · rw [entities_cons_of_not_isAngle hc] at hinfix
      rcases List.infix_cons_iff.1 hinfix with hbegin | hrest
      · rw [← entities_cons_of_not_isAngle hc] at hbegin
        exact hnot (begins_of_begins_entities hfree hbegin).isInfix
      · exact ih hlater hrest

end EncodedWord

namespace Escaping

variable {s : Text} {c d : Char}

theorem entity_ne_nil (c : Char) : entity c ≠ [] := by
  by_cases hc : IsAngle c
  · obtain ⟨name, -, hentity⟩ := entity_of_isAngle hc
    rw [hentity]
    exact nofun
  · rw [entity_of_not_isAngle hc]
    exact nofun

theorem isBlank_of_mem_entity (hc : Text.isBlank c = false) (hd : d ∈ entity c) :
    Text.isBlank d = false := by
  by_cases hangle : IsAngle c
  · have hmem := EncodedWord.mem_entityChars hangle hd
    simp only [EncodedWord.entityChars, List.mem_cons, List.not_mem_nil, or_false] at hmem
    rcases hmem with rfl | rfl | rfl | rfl | rfl <;> decide
  · rw [entity_of_not_isAngle hangle, List.mem_singleton] at hd
    rw [hd]
    exact hc

/-- Escaping does not put white space at the ends of a text. -/
theorem trim_entities (h : Text.trim s = s) : Text.trim (entities.apply s) = entities.apply s := by
  -- the first and the last character are those of entities, which have no blanks in them
  apply Text.stripBy_of_ends
  · intro d hd
    cases s with
    | nil => cases hd
    | cons c s =>
      have hc : Text.isBlank c = false := by
        refine Text.head?_stripBy (s := c :: s) ?_
        rw [← Text.trim, h]
        rfl
      rw [entities_cons, List.head?_append_of_ne_nil _ (entity_ne_nil c)] at hd
      exact isBlank_of_mem_entity hc (List.mem_of_head? hd)
  · intro d hd
    rcases List.eq_nil_or_concat s with rfl | ⟨t, c, rfl⟩
    · cases hd
    · rw [List.concat_eq_append] at h hd
      have hc : Text.isBlank c = false := by
        refine Text.getLast?_stripBy (s := t ++ [c]) ?_
        rw [← Text.trim, h, List.getLast?_concat]
      rw [entities_append, entities_cons, apply_nil, List.append_nil,
        List.getLast?_append_of_ne_nil _ (entity_ne_nil c)] at hd
      exact isBlank_of_mem_entity hc (List.mem_of_getLast? hd)

end Escaping

namespace Record

open Escaping Highlight

variable {terms : List Text} {line raw : Text} {r : Record}

theorem trim_trim (s : Text) : Text.trim (Text.trim s) = Text.trim s :=
  Text.stripBy_of_ends (fun _ h => Text.head?_stripBy h) fun _ h => Text.getLast?_stripBy h

theorem trim_field (tag line : Text) : Text.trim (field tag line) = field tag line := by
  unfold field
  split
  · rfl
  · split
    · rfl
    · exact trim_trim _

/-- **A field without an encoded word is escaped and not changed otherwise.** -/
theorem clean_field {tag : Text} (h : EncodedWord.Unmarked (field tag line)) :
    clean .html (field tag line) = .ok (entities.apply (field tag line)) := by
  have hdecode := EncodedWord.decode_of_unmarked Markup.html.wide (EncodedWord.unmarked_entities h)
  rw [trim_entities (trim_field tag line)] at hdecode
  exact hdecode

/-! ## Titles -/

/-- What the document of a line is called: by its title, or else by the last part of its name. -/
def callName (line : Text) : Text :=
  let title := field "title".toList line
  if title.isEmpty then Text.afterLast '/' (field "filename".toList line) else title

theorem titleOf_of_unmarked (h : EncodedWord.Unmarked (field "title".toList line)) :
    titleOf .html (field "title".toList line) (field "filename".toList line) =
      .ok (entities.apply (callName line)) := by
  rw [titleOf, callName]
  split
  · rfl
  · exact clean_field h

/-- What stands behind a title that was cut. -/
def ellipsis : Text := [' ', '.', '.', '.']

/-- What is shown of a title that is not cut within an entity. -/
def IsShown (raw shown : Text) : Prop :=
  (entities.apply raw).length ≤ maxTitle ∧ shown = raw ∨
    ∃ kept, kept <+: raw ∧ (entities.apply kept).length = maxTitle ∧ shown = kept ++ ellipsis

/-- **A title is cut between characters of the document** if it is not cut within an entity. -/
theorem truncateTitle_of_not_splits (h : ¬ Splits raw maxTitle) :
    ∃ shown, IsShown raw shown ∧ truncateTitle (entities.apply raw) = entities.apply shown := by
  by_cases hshort : (entities.apply raw).length ≤ maxTitle
  · exact ⟨raw, .inl ⟨hshort, rfl⟩, if_pos hshort⟩
  · obtain ⟨kept, rest, rfl, hkept⟩ := (exists_kept_iff (Nat.not_le.1 hshort).le).2 h
    refine ⟨kept ++ ellipsis, .inr ⟨kept, List.prefix_append kept rest, hkept, rfl⟩, ?_⟩
    have hdots : entities.apply ellipsis = [' ', '.', '.', '.'] := by decide
    rw [truncateTitle, if_neg hshort, entities_append, entities_append, ← hkept, List.take_left,
      hdots]

/-- A title that is cut within an entity ends in a stump of it. -/
theorem truncateTitle_of_splits (h : Splits raw maxTitle) :
    ∃ kept c stump, kept ++ [c] <+: raw ∧ IsAngle c ∧ stump <+: entity c ∧ stump ≠ [] ∧
      stump ≠ entity c ∧
      truncateTitle (entities.apply raw) = entities.apply kept ++ stump ++ ellipsis := by
  have hlong := h.lt_length
  obtain ⟨kept, c, rest, rfl, hc, hlow, hhigh⟩ := h
  have hlength := length_entity_of_isAngle hc
  -- the cut is behind `k` characters of the entity of `c`, neither none nor all of them
  obtain ⟨k, hk⟩ : ∃ k, maxTitle = (entities.apply kept).length + k :=
    ⟨_, (Nat.add_sub_of_le hlow.le).symm⟩
  have hstump : ((entity c).take k).length = k := by
    rw [List.length_take, hlength]
    omega
  refine ⟨kept, c, (entity c).take k, ?_, hc, List.take_prefix k _, ?_, ?_, ?_⟩
  · exact ⟨rest, by simp⟩
  · intro hnil
    rw [hnil, List.length_nil] at hstump
    omega
  · intro hwhole
    rw [hwhole, hlength] at hstump
    omega
  · have htake : (entities.apply (kept ++ c :: rest)).take maxTitle =
        entities.apply kept ++ (entity c).take k := by
      rw [entities_append, entities_cons, hk, List.take_length_add_append,
        List.take_append_of_le_length (by omega)]
    rw [truncateTitle, if_neg (Nat.not_le.2 hlong), htake]
    rfl

/-! ## Records -/

/-- **A record shows the document's own characters**, if its title and snippet have no encoded
words, no term begins or ends in the name of an entity, and the title is not cut within an entity:
snippet and title, or what is kept of the title, are escaped character by character, and the markers
stand between characters. A title that is cut within an entity ends in a stump of it. -/
theorem shown_characters (h : ofLine .html terms line = .ok r)
    (htitle : EncodedWord.Unmarked (field "title".toList line))
    (hsnippet : EncodedWord.Unmarked (field "snippet".toList line)) :
    ((∀ term ∈ terms, ¬ TouchesName (Text.lower term)) →
        Shows .html (field "snippet".toList line) r.snippet ∧
          (¬ Splits (callName line) maxTitle →
            ∃ shown, IsShown (callName line) shown ∧ Shows .html shown r.title)) ∧
      (Splits (callName line) maxTitle →
        ∃ kept c stump, kept ++ [c] <+: callName line ∧ IsAngle c ∧ stump <+: entity c ∧
          stump ≠ [] ∧ stump ≠ entity c ∧
          r.title = highlight .html terms (entities.apply kept ++ stump ++ ellipsis)) := by
  obtain ⟨author, title, snippet, -, hcalled, hcleaned, rfl⟩ := ofLine_eq_ok_iff.1 h
  rw [titleOf_of_unmarked htitle] at hcalled
  rw [clean_field hsnippet] at hcleaned
  cases hcalled
  cases hcleaned
  refine ⟨fun hterms => ⟨shows_highlight .html hterms _, fun hwhole => ?_⟩, fun hsplits => ?_⟩
  · obtain ⟨shown, hshown, htruncated⟩ := truncateTitle_of_not_splits hwhole
    refine ⟨shown, hshown, ?_⟩
    rw [assemble, htruncated]
    exact shows_highlight .html hterms shown
  · obtain ⟨kept, c, stump, hkept, hc, hstump, hne, hpart, htruncated⟩ :=
      truncateTitle_of_splits hsplits
    refine ⟨kept, c, stump, hkept, hc, hstump, hne, hpart, ?_⟩
    rw [assemble, htruncated]

/-- A record with brackets in title and snippet; the hit in the snippet stands between two. -/
theorem shown_characters_sample :
    let line := "<title>a<b</title><snippet>x <Y> z</snippet>".toList
    ∃ r, ofLine .html [['y']] line = .ok r ∧ r.title = "a&lt;b".toList ∧
      r.snippet = "x &lt;".toList ++ Markup.html.opening ++ ['Y'] ++ Markup.html.closing ++
        "&gt; z".toList ∧
      Shows .html "x <Y> z".toList r.snippet := by
  intro line
  obtain ⟨r, hline, hfields⟩ := Outcome.exists_of_toOption_map
    (show (ofLine .html [['y']] line).toOption.map (fun r => (r.title, r.snippet)) =
      some ("a&lt;b".toList, "x &lt;".toList ++ Markup.html.opening ++ ['Y'] ++
        Markup.html.closing ++ "&gt; z".toList) by decide +kernel)
  obtain ⟨htitle, hsnippet⟩ := Prod.mk.inj hfields
  obtain ⟨hshown, -⟩ := shown_characters hline (by decide +kernel) (by decide +kernel)
  exact ⟨r, hline, htitle, hsnippet, (hshown (by decide +kernel)).1⟩

/-- The name of an entity is highlighted, and a title is cut within one. -/
theorem shown_characters_of_split :
    let snippetLine := "<snippet>a < b</snippet>".toList
    let titleLine := "<title>".toList ++ List.replicate 79 'a' ++ "<b</title>".toList
    (∃ r, ofLine .html ["lt".toList] snippetLine = .ok r ∧
        r.snippet = "a &".toList ++ Markup.html.opening ++ "lt".toList ++ Markup.html.closing ++
          "; b".toList ∧
        ¬ "&lt;".toList <:+: r.snippet) ∧
      ∃ r, ofLine .html [] titleLine = .ok r ∧
        r.title = List.replicate 79 'a' ++ "& ...".toList := by
  intro snippetLine titleLine
  constructor
  · obtain ⟨r, hline, hsnippet⟩ := Outcome.exists_of_toOption_map
      (show (ofLine .html ["lt".toList] snippetLine).toOption.map snippet =
        some ("a &".toList ++ Markup.html.opening ++ "lt".toList ++ Markup.html.closing ++
          "; b".toList) by decide +kernel)
    refine ⟨r, hline, hsnippet, ?_⟩
    rw [hsnippet]
    decide +kernel
  · exact Outcome.exists_of_toOption_map (by decide +kernel)

end Record
end SearchClient
