import SearchClient.Console.Columns
import SearchClient.Proofs.Console.Shown

/-!
# What reaches the screen

Three things change a text between its markup and a screen on which no line is too long: tags that
act are not shown, characters that move the print position are dropped, and tabs become blanks.

1. `Console.bare` is a text without its backslashes, which escaping and rendering may change in
   number; `Console.length_bare_textAfter` says that every tag that acts costs other characters too,
   so markup that shows as many as it has holds no such tag;
2. `Console.not_straddles_of_quiet` tells from there that no tag begins in an escaped text and ends
   behind it;
3. `Console.Plain` are the texts that neither dropping characters nor expanding tabs changes:
   `Console.Plain.infix_printable` and `Console.Plain.infix_unfolded` keep them as stretches of what
   is shown.
-/

namespace SearchClient
namespace Console

variable {naming : Naming} {a b f s t shown : Text} {c : Char} {n : Nat} {stack : List Text}

/-! ## Texts without their backslashes -/

/-- A text without its backslashes. -/
def bare (s : Text) : Text := s.filter (· != '\\')

@[simp] theorem bare_append (a b : Text) : bare (a ++ b) = bare a ++ bare b :=
  List.filter_append a b

@[simp] theorem bare_cons_backslash (s : Text) : bare ('\\' :: s) = bare s := rfl

theorem bare_cons (hc : c ≠ '\\') (s : Text) : bare (c :: s) = c :: bare s :=
  List.filter_cons_of_pos (by simpa using hc)

@[simp] theorem bare_backslashes (n : Nat) : bare (backslashes n) = [] := by
  induction n with
  | zero => rfl
  | succ n ih => exact ih

theorem bare_escapedAfter (n : Nat) (s : Text) : bare (escapedAfter n s) = bare s := by
  induction s generalizing n with
  | nil => rw [escapedAfter_nil, bare_backslashes]; rfl
  | cons c s ih =>
    by_cases hc : c = '\\'
    · subst hc
      rw [escapedAfter_backslash, ih, bare_cons_backslash]
    · rw [escapedAfter_cons hc, bare_append, bare_backslashes, bare_cons hc, bare_cons hc, ih]
      rfl

theorem bare_drawn (n : Nat) (s : Text) : bare (drawn n s) = bare s := by
  induction s generalizing n with
  | nil => rfl
  | cons c s ih =>
    by_cases hc : c = '\\'
    · subst hc
      rw [drawn_backslash, ih, bare_cons_backslash]
    · rw [drawn_cons hc, bare_append, bare_backslashes, bare_cons hc, bare_cons hc, ih]
      rfl

theorem length_bare_printable_le (s : Text) : (bare (printable s)).length ≤ (bare s).length :=
  (List.filter_sublist.filter _).length_le

/-- **A tag that acts costs characters**: no more are shown than there are, and if as many are shown,
then no tag acts. -/
theorem length_bare_textAfter (h : textAfter naming stack n s = some shown) :
    (bare shown).length ≤ (bare s).length ∧
      ((bare s).length ≤ (bare shown).length → Quiet n s) := by
  -- by induction on the length: a tag that acts is passed over as a whole
  induction hlength : s.length using Nat.strongRecOn generalizing s n stack shown with
  | ind m ih =>
    cases s with
    | nil =>
      rw [textAfter_nil] at h
      obtain rfl := Option.some.inj h
      exact ⟨by simp, fun _ => quiet_nil n⟩
    | cons c s =>
      rw [List.length_cons] at hlength
      by_cases hc : c = '\\'
      · subst hc
        rw [textAfter_backslash] at h
        rw [bare_cons_backslash, quiet_backslash]
        exact ih s.length (by omega) h rfl
      by_cases hguarded : Guarded n c s
      · rw [textAfter_cons hc hguarded] at h
        obtain ⟨rest, hrest, rfl⟩ := Option.map_eq_some_iff.1 h
        obtain ⟨hle, hquiet⟩ := ih s.length (by omega) hrest rfl
        have hshown : bare (backslashes (slashesShown n c s) ++ c :: rest) = c :: bare rest := by
          rw [bare_append, bare_backslashes, bare_cons hc, List.nil_append]
        rw [hshown, bare_cons hc, List.length_cons, List.length_cons]
        exact ⟨by omega, fun hfull => (quiet_cons hc n s).2 ⟨hguarded, hquiet (by omega)⟩⟩
      · -- the brackets of the tag are not shown
        obtain ⟨rfl, hsome, heven⟩ : c = '[' ∧ (tagBody? s).isSome = true ∧ n % 2 = 0 := by
          simp only [Guarded, Classical.not_imp] at hguarded
          exact ⟨hguarded.1, hguarded.2.1, by omega⟩
        obtain ⟨⟨body, more⟩, htag⟩ := Option.isSome_iff_exists.1 hsome
        rw [textAfter_tag htag heven] at h
        obtain ⟨opened, -, hopened⟩ := Option.bind_eq_some_iff.1 h
        obtain ⟨rest, hrest, rfl⟩ := Option.map_eq_some_iff.1 hopened
        have hshorter := length_of_tagBody? htag
        have hle := (ih more.length (by omega) hrest rfl).1
        have hcost : (bare more).length + 1 < (bare ('[' :: s)).length := by
          rw [append_of_tagBody? htag, bare_cons hc, bare_append, bare_cons (by decide)]
          simp only [List.length_cons, List.length_append]
          omega
        rw [bare_append, bare_backslashes, List.nil_append]
        exact ⟨by omega, fun hfull => absurd hfull (by omega)⟩

theorem straddles_cons_of_ne (hopen : c ≠ '[') (a b : Text) : Straddles (c :: a) b ↔ Straddles a b :=
  (straddles_cons c a b).trans (or_iff_right fun h => hopen h.1)

theorem straddles_backslashes (n : Nat) (a b : Text) :
    Straddles (backslashes n ++ a) b ↔ Straddles a b := by
  induction n with
  | zero => rfl
  | succ n ih => exact (straddles_cons_of_ne (by decide) _ b).trans ih

/-- **If no tag acts, none begins in an escaped text and ends behind it.** -/
theorem not_straddles_of_quiet (hf : '\\' ∉ f) (h : Quiet 0 (escape f ++ b)) :
    ¬ Straddles (escape f) b ∧ Quiet 0 b := by
  rw [escape_eq] at h ⊢
  induction f with
  | nil =>
    rw [escapedAfter_nil] at h ⊢
    exact ⟨not_straddles_nil b, h⟩
  | cons c f ih =>
    rw [List.mem_cons, not_or] at hf
    have hc := Ne.symm hf.1
    rw [escapedAfter_cons hc, List.append_assoc, List.cons_append, quiet_backslashes,
      quiet_cons hc] at h
    obtain ⟨hguarded, hquiet⟩ := h
    obtain ⟨hseam, hb⟩ := ih hf.2 hquiet
    rw [escapedAfter_cons hc, straddles_backslashes, straddles_cons]
    refine ⟨?_, hb⟩
    rintro (⟨hopen, hnone, hsome⟩ | hrest)
    · -- a tag that is guarded ends in the text already
      have htag : (tagBody? f).isSome = false := by
        rw [← isSome_tagBody?_escapedAfter, hnone]
        rfl
      have hodd := hguarded hopen hsome
      rw [slashesWritten, htag, if_neg (by simp)] at hodd
      cases hodd
    · exact hseam hrest

/-! ## Characters that are dropped -/

@[simp] theorem printable_append (a b : Text) : printable (a ++ b) = printable a ++ printable b :=
  List.filter_append a b

/-- A text that is shown as it is, but for its brackets: it has no backslash, no tab and no character
that moves the print position. -/
structure Plain (s : Text) : Prop where
  no_backslash : '\\' ∉ s
  no_tab : '\t' ∉ s
  no_control : ∀ c ∈ s, isControl c = false

-- the quantifier is decided along the text
instance (s : Text) : Decidable (Plain s) :=
  decidable_of_iff ('\\' ∉ s ∧ '\t' ∉ s ∧ (s.all fun c => !isControl c) = true)
    ⟨fun ⟨h₁, h₂, h₃⟩ => ⟨h₁, h₂, by simpa using h₃⟩,
      fun h => ⟨h.no_backslash, h.no_tab, by simpa using h.no_control⟩⟩

theorem Plain.append (ha : Plain a) (hb : Plain b) : Plain (a ++ b) where
  no_backslash := fun h => (List.mem_append.1 h).elim ha.no_backslash hb.no_backslash
  no_tab := fun h => (List.mem_append.1 h).elim ha.no_tab hb.no_tab
  no_control := fun c h => (List.mem_append.1 h).elim (ha.no_control c) (hb.no_control c)

theorem Plain.printable_eq (h : Plain s) : printable s = s :=
  List.filter_eq_self.2 fun c hc => by simp [h.no_control c hc]

theorem Plain.infix_printable (h : Plain f) (hwithin : f <:+: s) : f <:+: printable s := by
  obtain ⟨before, after, rfl⟩ := hwithin
  rw [printable_append, printable_append, h.printable_eq]
  exact ⟨printable before, printable after, rfl⟩

/-! ## Tabs -/

/-- The one text is the other with blanks in the place of tabs. -/
inductive Spaced : Text → Text → Prop where
  | nil : Spaced [] []
  | char {s t : Text} (c : Char) (rest : Spaced s t) : Spaced (c :: s) (c :: t)
  | tab {s t : Text} (n : Nat) (rest : Spaced s t) :
      Spaced ('\t' :: s) (List.replicate (n + 1) ' ' ++ t)

namespace Spaced

theorem refl (s : Text) : Spaced s s := by
  induction s with
  | nil => exact .nil
  | cons c s ih => exact .char c ih

theorem append (ha : Spaced a t) (hb : Spaced b shown) : Spaced (a ++ b) (t ++ shown) := by
  induction ha with
  | nil => exact hb
  | char c _ ih => exact .char c ih
  | tab n _ ih =>
    rw [List.append_assoc]
    exact .tab n ih

theorem exists_append (h : Spaced (a ++ b) t) :
    ∃ a' b', t = a' ++ b' ∧ Spaced a a' ∧ Spaced b b' := by
  induction a generalizing t with
  | nil => exact ⟨[], t, rfl, .nil, h⟩
  | cons c a ih =>
    rw [List.cons_append] at h
    cases h with
    | char c hrest =>
      obtain ⟨a', b', rfl, ha, hb⟩ := ih hrest
      exact ⟨c :: a', b', rfl, .char c ha, hb⟩
    | tab n hrest =>
      obtain ⟨a', b', rfl, ha, hb⟩ := ih hrest
      exact ⟨List.replicate (n + 1) ' ' ++ a', b', (List.append_assoc _ _ _).symm, .tab n ha, hb⟩

theorem eq_of_no_tab (h : Spaced s t) (hs : '\t' ∉ s) : t = s := by
  induction h with
  | nil => rfl
  | char c _ ih => rw [ih fun htab => hs (List.mem_cons_of_mem c htab)]
  | tab n _ _ => exact absurd List.mem_cons_self hs

/-- A stretch without a tab stays one. -/
theorem keeps (h : Spaced s t) (hf : '\t' ∉ f) (hwithin : f <:+: s) : f <:+: t := by
  obtain ⟨before, after, rfl⟩ := hwithin
  obtain ⟨front, back, rfl, hfront, -⟩ := exists_append h
  obtain ⟨start, middle, rfl, -, hmiddle⟩ := exists_append hfront
  rw [eq_of_no_tab hmiddle hf]
  exact ⟨start, back, rfl⟩

end Spaced

theorem spaced_expandStretches (column : Nat) (stretches : List Text) :
    Spaced (['\t'].intercalate stretches) (expandStretches column stretches) := by
  induction stretches generalizing column with
  | nil => exact .nil
  | cons stretch rest ih =>
    cases rest with
    | nil =>
      rw [List.intercalate_singleton, expandStretches]
      exact .refl stretch
    | cons next rest =>
      rw [List.intercalate_cons_cons, expandStretches, List.append_assoc, List.append_assoc]
      · exact (Spaced.refl stretch).append (.tab _ (ih _))
      · exact nofun

/-- **Tabs become blanks, and nothing else changes.** -/
theorem spaced_expandTabs (s : Text) : Spaced s (expandTabs s) := by
  have hlines : ∀ lines : List Text,
      Spaced (['\n'].intercalate lines) (['\n'].intercalate (lines.map expandLine)) := by
    intro lines
    have hline : ∀ line, Spaced line (expandLine line) := fun line => by
      have hspaced := spaced_expandStretches 0 (line.splitOn '\t')
      rwa [List.intercalate_splitOn] at hspaced
    induction lines with
    | nil => exact .nil
    | cons line lines ih =>
      cases lines with
      | nil =>
        rw [List.map_singleton, List.intercalate_singleton, List.intercalate_singleton]
        exact hline line
      | cons next lines =>
        rw [List.map_cons, List.map_cons, List.intercalate_cons_cons, List.intercalate_cons_cons]
        exact ((hline line).append (.refl ['\n'])).append ih
  have hspaced := hlines (s.splitOn '\n')
  rwa [List.intercalate_splitOn] at hspaced

theorem Plain.infix_unfolded (h : Plain f) (hwithin : f <:+: s) : f <:+: unfolded s :=
  ((spaced_expandTabs s).keeps h.no_tab hwithin).trans (List.prefix_append _ ['\n']).isInfix

end Console
end SearchClient
