import SearchClient.Proofs.Display.Escaping
import SearchClient.Proofs.Display.Segments

/-!
# Entities in a displayed text

Escaping for the web writes an angle bracket as an entity of four characters. What is done to an
escaped text afterwards takes it for plain characters, so a cut may fall within an entity, and its
name is a word that may be highlighted. This module says when neither happens.

1. `Escaping.exists_kept_iff`: a cut falls between the characters of the raw text exactly if it
   splits the entity of none of them;
2. `Highlight.whole_of_standsAt`: a pattern that stands at an escaped text ends between the
   characters of the raw text, or it ends in the name of an entity;
3. `Highlight.shows_highlight`: if no term begins or ends in the name of an entity, the highlighted
   text is the raw text, escaped, with markers around some of its stretches.
-/

namespace SearchClient

/-! ## Entities -/

namespace Escaping

variable {c : Char} {s t raw kept rest : Text}

theorem entities_cons (c : Char) (s : Text) :
    entities.apply (c :: s) = entity c ++ entities.apply s := rfl

theorem entities_append (s t : Text) :
    entities.apply (s ++ t) = entities.apply s ++ entities.apply t := List.flatMap_append

/-- What the entities of the angle brackets are called. -/
def names : List Text := [['l', 't'], ['g', 't']]

theorem length_of_mem_names {name : Text} (h : name ∈ names) : name.length = 2 := by
  simp only [names, List.mem_cons, List.not_mem_nil, or_false] at h
  rcases h with rfl | rfl <;> rfl

theorem entity_of_isAngle (h : IsAngle c) : ∃ name ∈ names, entity c = '&' :: (name ++ [';']) := by
  rcases h with rfl | rfl
  · exact ⟨['l', 't'], by decide, rfl⟩
  · exact ⟨['g', 't'], by decide, rfl⟩

theorem entity_of_not_isAngle (h : ¬ IsAngle c) : entity c = [c] := by
  rw [entity, if_neg fun hc => h (.inl hc), if_neg fun hc => h (.inr hc)]

theorem length_entity_of_isAngle (h : IsAngle c) : (entity c).length = 4 := by
  rcases h with rfl | rfl <;> rfl

/-- The characters of a text that is escaped, one of which is not an angle bracket. -/
theorem entities_cons_of_not_isAngle (h : ¬ IsAngle c) (s : Text) :
    entities.apply (c :: s) = c :: entities.apply s := by
  rw [entities_cons, entity_of_not_isAngle h]
  rfl

theorem entities_cons_of_isAngle (h : IsAngle c) (s : Text) :
    ∃ name ∈ names, entities.apply (c :: s) = '&' :: (name ++ ';' :: entities.apply s) := by
  obtain ⟨name, hname, hentity⟩ := entity_of_isAngle h
  refine ⟨name, hname, ?_⟩
  rw [entities_cons, hentity]
  simp

/-! ### Cuts -/

/-- A cut of the escaped text after `n` characters falls within the entity of an angle bracket. -/
def Splits (raw : Text) (n : Nat) : Prop :=
  ∃ before c after, raw = before ++ c :: after ∧ IsAngle c ∧
    (entities.apply before).length < n ∧ n < (entities.apply before).length + 4

theorem exists_kept_or_splits {n : Nat} (hn : n ≤ (entities.apply raw).length) :
    (∃ kept rest, raw = kept ++ rest ∧ (entities.apply kept).length = n) ∨ Splits raw n := by
  induction raw generalizing n with
  | nil => exact .inl ⟨[], [], rfl, (Nat.le_zero.1 hn).symm⟩
  | cons c raw ih =>
    by_cases hzero : n = 0
    · exact .inl ⟨[], c :: raw, rfl, hzero.symm⟩
    · rw [entities_cons, List.length_append] at hn
      by_cases hwithin : IsAngle c ∧ n < 4
      · exact .inr ⟨[], c, raw, rfl, hwithin.1, Nat.pos_of_ne_zero hzero,
          Nat.lt_of_lt_of_le hwithin.2 (Nat.le_add_left 4 _)⟩
      · -- the cut comes behind the first character
        have hbehind : (entity c).length ≤ n := by
          by_cases hc : IsAngle c
          · rw [length_entity_of_isAngle hc]
            exact Nat.not_lt.1 fun h => hwithin ⟨hc, h⟩
          · rw [entity_of_not_isAngle hc]
            exact Nat.pos_of_ne_zero hzero
        rcases ih (n := n - (entity c).length) (by omega) with
          ⟨kept, rest, rfl, hkept⟩ | ⟨before, d, after, rfl, hd, hlow, hhigh⟩
        · refine .inl ⟨c :: kept, rest, rfl, ?_⟩
          rw [entities_cons, List.length_append, hkept]
          omega
        · refine .inr ⟨c :: before, d, after, rfl, hd, ?_, ?_⟩ <;>
            rw [entities_cons, List.length_append] <;> omega

theorem Splits.lt_length {n : Nat} (h : Splits raw n) : n < (entities.apply raw).length := by
  obtain ⟨before, c, after, rfl, hc, -, hhigh⟩ := h
  rw [entities_append, entities_cons, List.length_append, List.length_append,
    length_entity_of_isAngle hc]
  omega

theorem not_splits_of_kept : ¬ Splits (kept ++ rest) (entities.apply kept).length := by
  rintro ⟨before, c, after, heq, hc, hlow, hhigh⟩
  -- of two beginnings of one text, one begins the other
  rcases List.append_eq_append_iff.1 heq with ⟨more, rfl, -⟩ | ⟨more, rfl, hmore⟩
  · rw [entities_append, List.length_append] at hlow
    omega
  · cases more with
    | nil =>
      rw [List.append_nil] at hlow
      exact Nat.lt_irrefl _ hlow
    | cons d more =>
      obtain ⟨rfl, -⟩ := List.cons.inj hmore
      rw [entities_append, entities_cons, List.length_append, List.length_append,
        length_entity_of_isAngle hc] at hhigh
      omega

/-- **A cut falls between characters of the raw text exactly if it splits no entity.** -/
theorem exists_kept_iff {n : Nat} (hn : n ≤ (entities.apply raw).length) :
    (∃ kept rest, raw = kept ++ rest ∧ (entities.apply kept).length = n) ↔ ¬ Splits raw n := by
  constructor
  · rintro ⟨kept, rest, rfl, rfl⟩
    exact not_splits_of_kept
  · exact (exists_kept_or_splits hn).resolve_right

end Escaping

/-! ## Highlighting -/

namespace Highlight

open Escaping

variable {pattern name s t : Text} {targets terms : List Text} {c : Char}

/-- A term, in lower case, begins or ends in the name of an entity. -/
def TouchesName (pattern : Text) : Prop :=
  ∃ name ∈ names, pattern = name ∨ name ++ [' '] <+: pattern ∨ ' ' :: name <:+ pattern

instance (pattern : Text) : Decidable (TouchesName pattern) :=
  inferInstanceAs (Decidable (∃ name ∈ names, _))

theorem not_atBoundary (h : shadowChar c ≠ ' ') (s : Text) : atBoundary (c :: s) = false :=
  beq_eq_false_iff_ne.2 h

/-- A pattern that stands at the name of an entity is this name, or goes on behind it. -/
theorem eq_name_or_of_standsAt (hname : name ∈ names)
    (h : standsAt pattern (name ++ ';' :: t) = true) :
    pattern = name ∨ ∃ rest, pattern = name ++ ' ' :: rest ∧ standsAt rest t = true := by
  obtain ⟨x, hx, hblank, rfl⟩ : ∃ x, shadowChar x = x ∧ x ≠ ' ' ∧ name = [x, 't'] := by
    simp only [names, List.mem_cons, List.not_mem_nil, or_false] at hname
    rcases hname with rfl | rfl
    · exact ⟨'l', by decide, by decide, rfl⟩
    · exact ⟨'g', by decide, by decide, rfl⟩
  have ht : shadowChar 't' = 't' := by decide
  have hsemicolon : shadowChar ';' = ' ' := by decide
  match pattern with
  | [] => simp [standsAt, atBoundary, hx, hblank] at h
  | [p] => simp [standsAt, atBoundary, ht] at h
  | [p, q] =>
    simp only [List.cons_append, List.nil_append, standsAt, hx, ht, Bool.and_eq_true,
      beq_iff_eq] at h
    exact .inl (by rw [h.1, h.2.1])
  | p :: q :: r :: pattern =>
    simp only [List.cons_append, List.nil_append, standsAt, hx, ht, hsemicolon, Bool.and_eq_true,
      beq_iff_eq] at h
    obtain ⟨rfl, rfl, rfl, hrest⟩ := h
    exact .inr ⟨pattern, rfl, hrest⟩

theorem touchesName_of_standsAt (hname : name ∈ names)
    (h : standsAt pattern (name ++ ';' :: t) = true) : TouchesName pattern := by
  rcases eq_name_or_of_standsAt hname h with heq | ⟨rest, rfl, -⟩
  · exact ⟨name, hname, .inl heq⟩
  · exact ⟨name, hname, .inr (.inl ⟨rest, by simp⟩)⟩

/-- **A pattern that stands at an escaped text ends between characters of the raw text**, or in the
name of an entity. -/
theorem whole_of_standsAt (h : standsAt pattern (entities.apply s) = true) :
    (∃ kept rest, s = kept ++ rest ∧ pattern.length = (entities.apply kept).length) ∨
      ∃ name ∈ names, ' ' :: name <:+ pattern := by
  -- by induction on the raw text: its first character is one of the pattern or four of it
  induction s generalizing pattern with
  | nil =>
    cases pattern with
    | nil => exact .inl ⟨[], [], rfl, rfl⟩
    | cons p pattern => cases h
  | cons c s ih =>
    cases pattern with
    | nil => exact .inl ⟨[], c :: s, rfl, rfl⟩
    | cons p pattern =>
      by_cases hc : IsAngle c
      · obtain ⟨name, hname, hescaped⟩ := entities_cons_of_isAngle hc s
        have hampersand : shadowChar '&' = ' ' := by decide
        rw [hescaped, standsAt, hampersand, Bool.and_eq_true, beq_iff_eq] at h
        obtain ⟨rfl, hstands⟩ := h
        rcases eq_name_or_of_standsAt hname hstands with rfl | ⟨more, rfl, hmore⟩
        · exact .inr ⟨pattern, hname, List.suffix_rfl⟩
        · rcases ih hmore with ⟨kept, rest, rfl, hlength⟩ | ⟨other, hother, hsuffix⟩
          · refine .inl ⟨c :: kept, rest, rfl, ?_⟩
            rw [entities_cons, List.length_append, length_entity_of_isAngle hc, List.length_cons,
              List.length_append, List.length_cons, length_of_mem_names hname, hlength]
            omega
          · have hmore : more <:+ ' ' :: (name ++ ' ' :: more) := ⟨' ' :: (name ++ [' ']), by simp⟩
            exact .inr ⟨other, hother, hsuffix.trans hmore⟩
      · rw [entities_cons_of_not_isAngle hc, standsAt, Bool.and_eq_true] at h
        rcases ih h.2 with ⟨kept, rest, rfl, hlength⟩ | ⟨name, hname, hsuffix⟩
        · refine .inl ⟨c :: kept, rest, rfl, ?_⟩
          rw [entities_cons_of_not_isAngle hc, List.length_cons, List.length_cons, hlength]
        · exact .inr ⟨name, hname, hsuffix.trans (List.suffix_cons p pattern)⟩

/-! ### Segments -/

theorem shadowChar_of_isAngle (h : IsAngle c) : shadowChar c = ' ' := by
  rcases h with rfl | rfl <;> decide

/-- A word of an escaped text ends between characters of the raw text. -/
theorem exists_word (s : Text) : ∃ word rest, s = word ++ rest ∧
    (entities.apply s).takeWhile (shadowChar · != ' ') = entities.apply word ∧
      (entities.apply s).dropWhile (shadowChar · != ' ') = entities.apply rest := by
  induction s with
  | nil => exact ⟨[], [], rfl, rfl, rfl⟩
  | cons c s ih =>
    by_cases hblank : shadowChar c = ' '
    · refine ⟨[], c :: s, rfl, ?_⟩
      by_cases hc : IsAngle c
      · obtain ⟨name, -, hescaped⟩ := entities_cons_of_isAngle hc s
        rw [hescaped]
        exact ⟨rfl, rfl⟩
      · rw [entities_cons_of_not_isAngle hc]
        simp [hblank, Escaping.apply]
    · have hc : ¬ IsAngle c := fun hc => hblank (shadowChar_of_isAngle hc)
      obtain ⟨word, rest, rfl, htake, hdrop⟩ := ih
      refine ⟨c :: word, rest, rfl, ?_⟩
      rw [entities_cons_of_not_isAngle hc, entities_cons_of_not_isAngle hc]
      have hword : (shadowChar c != ' ') = true := bne_iff_ne.2 hblank
      exact ⟨by rw [List.takeWhile_cons, if_pos hword, htake],
        by rw [List.dropWhile_cons, if_pos hword, hdrop]⟩

theorem exists_of_hitLength? {n : Nat} (h : hitLength? targets s = some n) :
    ∃ pattern ∈ targets, standsAt pattern s = true ∧ pattern.length = n := by
  obtain ⟨pattern, hfind, hlength⟩ := Option.map_eq_some_iff.1 h
  have hstands := List.find?_some hfind
  exact ⟨pattern, List.mem_of_find?_eq_some hfind, hstands, hlength⟩

/-- An entity is passed over if no pattern begins in its name. -/
theorem segments_entity (htargets : ∀ pattern ∈ targets, ¬ TouchesName pattern)
    (hname : name ∈ names) (t : Text) :
    segments targets ('&' :: (name ++ ';' :: t)) =
      .plain ['&'] :: .plain name :: .plain [';'] :: segments targets t := by
  have hmiss : hitLength? targets (name ++ ';' :: t) = Option.none := by
    cases hhit : hitLength? targets (name ++ ';' :: t) with
    | none => rfl
    | some n =>
      obtain ⟨pattern, hmem, hstands, -⟩ := exists_of_hitLength? hhit
      exact absurd (touchesName_of_standsAt hname hstands) (htargets pattern hmem)
  have hword : segments targets (name ++ ';' :: t) =
      .plain name :: segments targets (';' :: t) := by
    simp only [names, List.mem_cons, List.not_mem_nil, or_false] at hname
    rcases hname with rfl | rfl <;> exact segments_of_miss (by decide) hmiss
  rw [segments_of_blank (by decide), hword, segments_of_blank (by decide)]

/-- A segment of a raw text as it is displayed. -/
def Segment.escaped : Segment → Segment
  | plain s => plain (entities.apply s)
  | hit s => hit (entities.apply s)

/-- A raw text is shown whole: escaped, with markers around some of its stretches. -/
def Shows (markup : Markup) (raw shown : Text) : Prop :=
  ∃ parts : List Segment, parts.flatMap Segment.text = raw ∧
    (parts.map Segment.escaped).flatMap (Segment.render markup) = shown

namespace Shows

variable {markup : Markup} {raw shown : Text}

theorem plain (s : Text) (h : Shows markup raw shown) :
    Shows markup (s ++ raw) (entities.apply s ++ shown) := by
  obtain ⟨parts, rfl, rfl⟩ := h
  exact ⟨.plain s :: parts, rfl, rfl⟩

theorem hit (s : Text) (h : Shows markup raw shown) :
    Shows markup (s ++ raw) (Segment.render markup (.hit (entities.apply s)) ++ shown) := by
  obtain ⟨parts, rfl, rfl⟩ := h
  exact ⟨.hit s :: parts, rfl, rfl⟩

theorem char (c : Char) (h : Shows markup raw shown) :
    Shows markup (c :: raw) (entity c ++ shown) := by
  have hshown := h.plain [c]
  rw [entities_cons, apply_nil, List.append_nil] at hshown
  exact hshown

end Shows

/-- A hit in an escaped text is a stretch of the raw text. -/
theorem whole_of_hitLength? (htargets : ∀ pattern ∈ targets, ¬ TouchesName pattern)
    (hword : shadowChar c ≠ ' ') {n : Nat}
    (hhit : hitLength? targets (c :: entities.apply s) = some n) :
    ∃ kept rest, s = kept ++ rest ∧ n = (entities.apply kept).length + 1 := by
  have hc : ¬ IsAngle c := fun hc => hword (shadowChar_of_isAngle hc)
  obtain ⟨pattern, hmem, hstands, hlength⟩ := exists_of_hitLength? hhit
  rw [← entities_cons_of_not_isAngle hc] at hstands
  rcases whole_of_standsAt hstands with ⟨kept, rest, heq, hkept⟩ | ⟨name, hname, hsuffix⟩
  · cases kept with
    | nil =>
      -- no word ends where it begins
      rw [List.eq_nil_of_length_eq_zero hkept, entities_cons_of_not_isAngle hc, standsAt,
        not_atBoundary hword] at hstands
      cases hstands
    | cons d kept =>
      rw [List.cons_append] at heq
      obtain ⟨rfl, rfl⟩ := List.cons.inj heq
      rw [entities_cons_of_not_isAngle hc, List.length_cons] at hkept
      exact ⟨kept, rest, rfl, hlength.symm.trans hkept⟩
  · exact absurd ⟨name, hname, .inr (.inr hsuffix)⟩ (htargets pattern hmem)

theorem shows_segments (markup : Markup) (htargets : ∀ pattern ∈ targets, ¬ TouchesName pattern)
    (s : Text) :
    Shows markup s ((segments targets (entities.apply s)).flatMap (Segment.render markup)) := by
  -- by induction along the raw text: each case shows a stretch of it and goes on behind it
  induction hs : s.length using Nat.strongRecOn generalizing s with
  | ind m ih =>
    cases s with
    | nil => exact ⟨[], rfl, by rw [apply_nil, segments]; rfl⟩
    | cons c s =>
      rw [List.length_cons] at hs
      by_cases hc : IsAngle c
      · obtain ⟨name, hname, hentity⟩ := entity_of_isAngle hc
        have hescaped : entities.apply (c :: s) = '&' :: (name ++ ';' :: entities.apply s) := by
          rw [entities_cons, hentity]
          simp
        have hshown := (ih s.length (by omega) s rfl).char c
        rw [hentity] at hshown
        rw [hescaped, segments_entity htargets hname]
        simpa [Segment.render] using hshown
      rw [entities_cons_of_not_isAngle hc]
      by_cases hblank : shadowChar c = ' '
      · have hshown := (ih s.length (by omega) s rfl).plain [c]
        rw [entities_cons_of_not_isAngle hc] at hshown
        rw [segments_of_blank hblank, List.flatMap_cons]
        exact hshown
      cases hhit : hitLength? targets (c :: entities.apply s) with
      | none =>
        obtain ⟨word, rest, rfl, htake, hdrop⟩ := exists_word s
        rw [List.length_append] at hs
        have hshown := (ih rest.length (by omega) rest rfl).plain (c :: word)
        rw [entities_cons_of_not_isAngle hc] at hshown
        rw [segments_of_miss hblank hhit, htake, hdrop, List.flatMap_cons]
        exact hshown
      | some n =>
        obtain ⟨kept, rest, rfl, rfl⟩ := whole_of_hitLength? htargets hblank hhit
        rw [List.length_append] at hs
        have hshown := (ih rest.length (by omega) rest rfl).hit (c :: kept)
        rw [entities_cons_of_not_isAngle hc] at hshown
        rw [segments_of_hit hblank hhit, Nat.add_sub_cancel, entities_append, List.take_left,
          List.drop_left, List.flatMap_cons]
        exact hshown

/-- **A text is shown whole** if no term begins or ends in the name of an entity. -/
theorem shows_highlight (markup : Markup) (hterms : ∀ term ∈ terms, ¬ TouchesName (Text.lower term))
    (s : Text) : Shows markup s (highlight markup terms (entities.apply s)) := by
  refine shows_segments markup (fun pattern hpattern => ?_) s
  obtain ⟨term, hterm, rfl⟩ := List.mem_map.1 hpattern
  exact hterms term (List.mem_filter.1 hterm).1

end Highlight
end SearchClient
