import Mathlib.Data.List.Infix
import SearchClient.Proofs.Display.Entities

/-!
# The stretches that are highlighted

Which stretches of a text are highlighted is said here by positions in its shadow, without the scan
that finds them: a token starts behind a blank, and a term matches where the shadow goes on with the
term in lower case and a blank.

1. `Highlight.Covers` says what a list of spans has to be, and `Highlight.Covers.unique` that there
   is at most one such list;
2. `Highlight.covers_spansFrom` says that the hits of the scan are such a list: `Covers.of_later` and
   `Covers.cons` are its steps over what is passed over and over a hit;
3. `Highlight.highlight_spans` says that a highlighted text is the text with these spans wrapped.
-/

namespace SearchClient
namespace Highlight

variable {terms : List Text} {markup : Markup} {s t term : Text} {i j n first : Nat}

/-! ## Where terms match -/

/-- A term matches at a position: from there on the shadow goes on with the term in lower case and a
blank. An empty term matches nowhere. -/
def Matches (s term : Text) (i : Nat) : Prop :=
  term ≠ [] ∧ Text.lower term ++ [' '] <+: (shadow s).drop i

instance (s term : Text) (i : Nat) : Decidable (Matches s term i) :=
  inferInstanceAs (Decidable (_ ∧ _))

/-- The first of the terms that matches at a position. -/
def firstMatch? (terms : List Text) (s : Text) (i : Nat) : Option Text :=
  terms.find? fun term => decide (Matches s term i)

/-- A token starts at a position: the shadow has no blank there, and has one just before unless the
text begins there. -/
structure TokenStart (s : Text) (i : Nat) : Prop where
  word : ∃ c, (shadow s)[i]? = some c ∧ c ≠ ' '
  behind : i = 0 ∨ (shadow s)[i - 1]? = some ' '

/-! ### Positions of the shadow -/

theorem drop_shadow (h : i ≤ s.length) : (shadow s).drop i = shadow (s.drop i) := by
  have hlength : i ≤ (s.map shadowChar).length := by simpa using h
  simp [shadow, List.drop_append_of_le_length hlength, List.map_drop]

theorem getElem?_shadow (h : i ≤ s.length) : (shadow s)[i]? = (shadow (s.drop i)).head? := by
  rw [← drop_shadow h, List.head?_drop]

/-- Behind the last character the shadow has a blank. -/
theorem getElem?_shadow_length (s : Text) : (shadow s)[s.length]? = some ' ' := by
  rw [getElem?_shadow (Nat.le_refl _), List.drop_length]
  rfl

theorem TokenStart.lt_length (h : TokenStart s i) : i < s.length := by
  obtain ⟨c, hc, hword⟩ := h.word
  have hlength : i < s.length + 1 := by simpa [shadow] using (List.getElem?_eq_some_iff.1 hc).1
  by_contra hlast
  have hi : i = s.length := by omega
  rw [hi, getElem?_shadow_length] at hc
  exact hword (Option.some.inj hc).symm

theorem atBoundary_iff (s : Text) : atBoundary s = true ↔ [' '] <+: shadow s := by
  cases s with
  | nil => simp [atBoundary, shadow]
  | cons c s =>
    have hblank : ' ' = shadowChar c ↔ shadowChar c = ' ' := eq_comm
    simp [atBoundary, shadow, hblank]

/-- **A pattern stands at a text if the shadow begins with it and a blank.** -/
theorem standsAt_iff (pattern s : Text) : standsAt pattern s = true ↔ pattern ++ [' '] <+: shadow s := by
  induction pattern generalizing s with
  | nil => exact atBoundary_iff s
  | cons p pattern ih =>
    cases s with
    | nil => simp [standsAt, shadow]
    | cons c s =>
      have hstep := ih s
      simp only [shadow] at hstep
      simp [standsAt, shadow, hstep]

/-- The scan finds the length of the first term that matches. -/
theorem hitLength?_eq (terms : List Text) (h : i ≤ s.length) :
    hitLength? (patterns terms) (s.drop i) =
      (firstMatch? terms s i).map fun term => (Text.lower term).length := by
  have hmatches : ∀ term : Text,
      (!term.isEmpty && standsAt (Text.lower term) (s.drop i)) = decide (Matches s term i) := by
    intro term
    rw [Bool.eq_iff_iff, Bool.and_eq_true, standsAt_iff, ← drop_shadow h, decide_eq_true_iff]
    simp [Matches]
  simp only [firstMatch?, ← hmatches, hitLength?, patterns, List.find?_map, List.find?_filter,
    Option.map_map, Function.comp_apply, Bool.decide_and, Bool.decide_eq_true]
  rfl

/-- A match at the start of a token ends within the text, and a blank comes behind it. -/
theorem Matches.bounds (h : Matches s term i) (hstart : TokenStart s i) :
    0 < (Text.lower term).length ∧ i + (Text.lower term).length ≤ s.length ∧
      (shadow s)[i + (Text.lower term).length]? = some ' ' := by
  obtain ⟨rest, hrest⟩ := h.2
  have hblank : (shadow s)[i + (Text.lower term).length]? = some ' ' := by
    rw [← List.getElem?_drop, ← hrest]
    simp
  have hlength : (shadow s).length = s.length + 1 := by simp [shadow]
  have hinside := (List.getElem?_eq_some_iff.1 hblank).1
  refine ⟨?_, by omega, hblank⟩
  by_contra hzero
  -- an empty match would be at a blank
  obtain ⟨c, hc, hword⟩ := hstart.word
  have hi : i + (Text.lower term).length = i := by omega
  rw [hi, hc] at hblank
  exact hword (Option.some.inj hblank)

/-! ## Spans -/

/-- A stretch of a text, by its first position and the one behind its last. -/
structure Span where
  start : Nat
  stop : Nat
  deriving DecidableEq

/-- What the spans of a text are, from the position `first` on, if the terms are highlighted in it. -/
structure Covers (terms : List Text) (s : Text) (first : Nat) (spans : List Span) : Prop where
  from_first : ∀ span ∈ spans, first ≤ span.start
  nonempty : ∀ span ∈ spans, span.start < span.stop
  inside : ∀ span ∈ spans, span.stop ≤ s.length
  ordered : spans.Pairwise fun span later => span.stop ≤ later.start
  starts : ∀ span ∈ spans, TokenStart s span.start
  /-- A span has the length of the first term that matches where it starts. -/
  matched : ∀ span ∈ spans, ∃ term, firstMatch? terms s span.start = some term ∧
    span.stop = span.start + (Text.lower term).length
  /-- No term matches at the start of a token that lies in no span. -/
  complete : ∀ i, first ≤ i → TokenStart s i →
    (∀ span ∈ spans, ¬ (span.start ≤ i ∧ i < span.stop)) → ∀ term ∈ terms, ¬ Matches s term i

namespace Covers

variable {span other : Span} {spans others : List Span}

/-! ### Only one list -/

theorem start_le (h : Covers terms s first (span :: spans)) (hother : other ∈ span :: spans) :
    span.start ≤ other.start := by
  rcases List.mem_cons.1 hother with heq | hlater
  · exact heq ▸ Nat.le_refl _
  · have hstop : span.stop ≤ other.start := (List.pairwise_cons.1 h.ordered).1 other hlater
    have hstart : span.start < span.stop := h.nonempty span List.mem_cons_self
    omega

theorem tail (h : Covers terms s first (span :: spans)) : Covers terms s span.stop spans where
  from_first := (List.pairwise_cons.1 h.ordered).1
  nonempty := fun later hlater => h.nonempty later (List.mem_cons_of_mem span hlater)
  inside := fun later hlater => h.inside later (List.mem_cons_of_mem span hlater)
  ordered := (List.pairwise_cons.1 h.ordered).2
  starts := fun later hlater => h.starts later (List.mem_cons_of_mem span hlater)
  matched := fun later hlater => h.matched later (List.mem_cons_of_mem span hlater)
  complete := by
    intro i hi hstart hfree
    have hfirst : first ≤ span.start := h.from_first span List.mem_cons_self
    have hspan : span.start < span.stop := h.nonempty span List.mem_cons_self
    refine h.complete i (by omega) hstart ?_
    intro later hlater hwithin
    rcases List.mem_cons.1 hlater with rfl | hlater
    · omega
    · exact hfree later hlater hwithin

/-- A span of one list starts within a span of the other: a term matches there. -/
theorem exists_within (h : Covers terms s first spans) (h' : Covers terms s first others)
    (hspan : span ∈ spans) : ∃ other ∈ others, other.start ≤ span.start ∧ span.start < other.stop := by
  by_contra hnone
  obtain ⟨term, hfirst, -⟩ := h.matched span hspan
  have hmatch : Matches s term span.start := by simpa using List.find?_some hfirst
  have hfree : ∀ other ∈ others, ¬ (other.start ≤ span.start ∧ span.start < other.stop) := by
    intro other hother hwithin
    exact hnone ⟨other, hother, hwithin⟩
  exact h'.complete span.start (h.from_first span hspan) (h.starts span hspan) hfree term
    (List.mem_of_find?_eq_some hfirst) hmatch

theorem head_start_le (h : Covers terms s first (span :: spans))
    (h' : Covers terms s first (other :: others)) : other.start ≤ span.start := by
  obtain ⟨within, hwithin, hstart, -⟩ := h.exists_within h' List.mem_cons_self
  have := h'.start_le hwithin
  omega

/-- **There is only one such list of spans.** -/
theorem unique (h : Covers terms s first spans) (h' : Covers terms s first others) :
    spans = others := by
  -- the first spans start together, as neither list misses the match of the other
  induction spans generalizing first others with
  | nil =>
    cases others with
    | nil => rfl
    | cons other others =>
      obtain ⟨_, hnone, -⟩ := h'.exists_within h List.mem_cons_self
      cases hnone
  | cons span spans ih =>
    cases others with
    | nil =>
      obtain ⟨_, hnone, -⟩ := h.exists_within h' List.mem_cons_self
      cases hnone
    | cons other others =>
      have hstart : span.start = other.start :=
        Nat.le_antisymm (h'.head_start_le h) (h.head_start_le h')
      obtain ⟨term, hterm, hstop⟩ := h.matched span List.mem_cons_self
      obtain ⟨term', hterm', hstop'⟩ := h'.matched other List.mem_cons_self
      rw [hstart, hterm'] at hterm
      cases hterm
      have hspan : span = other := by
        cases span
        cases other
        simp only [Span.mk.injEq] at *
        omega
      subst hspan
      rw [ih h.tail h'.tail]

/-! ### Steps of the scan -/

/-- Positions where no token starts, or no term matches, are passed over. -/
theorem of_later (h : Covers terms s j spans) (hij : i ≤ j)
    (hquiet : ∀ k, i ≤ k → k < j → TokenStart s k → ∀ term ∈ terms, ¬ Matches s term k) :
    Covers terms s i spans where
  from_first := fun span hspan => Nat.le_trans hij (h.from_first span hspan)
  nonempty := h.nonempty
  inside := h.inside
  ordered := h.ordered
  starts := h.starts
  matched := h.matched
  complete := by
    intro k hik hstart hfree
    by_cases hk : k < j
    · exact hquiet k hik hk hstart
    · exact h.complete k (Nat.not_lt.1 hk) hstart hfree

/-- A span is put before those behind it. -/
theorem cons (h : Covers terms s span.stop spans) (hstart : TokenStart s span.start)
    (hinside : span.stop ≤ s.length) (hfirst : firstMatch? terms s span.start = some term)
    (hstop : span.stop = span.start + (Text.lower term).length) (hpos : span.start < span.stop) :
    Covers terms s span.start (span :: spans) where
  from_first := List.forall_mem_cons.2
    ⟨Nat.le_refl _, fun later hlater => Nat.le_trans (Nat.le_of_lt hpos) (h.from_first later hlater)⟩
  nonempty := List.forall_mem_cons.2 ⟨hpos, h.nonempty⟩
  inside := List.forall_mem_cons.2 ⟨hinside, h.inside⟩
  ordered := List.pairwise_cons.2 ⟨h.from_first, h.ordered⟩
  starts := List.forall_mem_cons.2 ⟨hstart, h.starts⟩
  matched := List.forall_mem_cons.2 ⟨⟨term, hfirst, hstop⟩, h.matched⟩
  complete := by
    intro k hk hword hfree
    have hbehind : span.stop ≤ k := by
      have := hfree span List.mem_cons_self
      omega
    refine h.complete k hbehind hword ?_
    intro later hlater
    exact hfree later (List.mem_cons_of_mem span hlater)

end Covers

/-! ## The hits of the scan -/

/-- The spans of the hits among segments, the first of which begins at a position. -/
def spansFrom : Nat → List Segment → List Span
  | _, [] => []
  | i, .plain t :: parts => spansFrom (i + t.length) parts
  | i, .hit t :: parts => ⟨i, i + t.length⟩ :: spansFrom (i + t.length) parts

/-- No token goes on across a position. -/
def Clear (s : Text) (i : Nat) : Prop :=
  i = 0 ∨ (shadow s)[i - 1]? = some ' ' ∨ (shadow s)[i]? = some ' '

theorem Clear.tokenStart {c : Char} (h : Clear s i) (hc : (shadow s)[i]? = some c) (hword : c ≠ ' ') :
    TokenStart s i := by
  refine ⟨⟨c, hc, hword⟩, ?_⟩
  rcases h with hzero | hbehind | hblank
  · exact .inl hzero
  · exact .inr hbehind
  · rw [hc] at hblank
    exact absurd (Option.some.inj hblank) hword

/-- What is left of a token that is passed over begins with a blank of the shadow. -/
theorem head?_shadow_dropWhile (rest : Text) :
    (shadow (rest.dropWhile (shadowChar · != ' '))).head? = some ' ' := by
  have hnot := List.head?_dropWhile_not (shadowChar · != ' ') rest
  cases hrest : rest.dropWhile (shadowChar · != ' ') with
  | nil => rfl
  | cons d more =>
    rw [hrest] at hnot
    simpa [shadow] using hnot

theorem drop_add_of_drop_eq_append {rest : Text} (h : s.drop i = t ++ rest) :
    s.drop (i + t.length) = rest := by
  rw [← List.drop_drop, h, List.drop_left]

theorem getElem?_shadow_add {rest : Text} (h : s.drop i = t ++ rest) (hn : n < t.length) :
    (shadow s)[i + n]? = some (shadowChar t[n]) := by
  have hi : i ≤ s.length := by
    by_contra hover
    rw [List.drop_eq_nil_of_le (by omega)] at h
    simp [(List.append_eq_nil_iff.1 h.symm).1] at hn
  rw [← List.getElem?_drop, drop_shadow hi, h, shadow, List.map_append, List.append_assoc,
    List.getElem?_append_left (by simpa using hn)]
  simp [hn]

/-- **The hits of the scan are the spans that a text is to have**, from every position on where the
scan may stand. -/
theorem covers_spansFrom (terms : List Text) (h : s.drop i = t) (hi : i ≤ s.length)
    (hclear : Clear s i) : Covers terms s i (spansFrom i (segments (patterns terms) t)) := by
  -- by induction along the scan: each case goes on where the scan may stand again
  fun_induction segments (patterns terms) t generalizing i with
  | case1 =>
    have hend : i = s.length := Nat.le_antisymm hi (List.drop_eq_nil_iff.1 h)
    refine ⟨List.forall_mem_nil _, List.forall_mem_nil _, List.forall_mem_nil _, .nil,
      List.forall_mem_nil _, List.forall_mem_nil _, ?_⟩
    intro k hk hstart
    have := hstart.lt_length
    omega
  | case2 c rest hblank ih =>
    have hlt : i < s.length := by
      have := congrArg List.length h
      simp at this
      omega
    have hshadow : (shadow s)[i]? = some ' ' := by
      rw [getElem?_shadow hi, h, ← hblank]
      rfl
    have hrest : s.drop (i + 1) = rest := drop_add_of_drop_eq_append (t := [c]) h
    refine (ih hrest hlt (.inr (.inl hshadow))).of_later (Nat.le_succ i) ?_
    intro k hik hk hstart
    have hk : k = i := by omega
    obtain ⟨d, hd, hword⟩ := hstart.word
    rw [hk, hshadow] at hd
    exact absurd (Option.some.inj hd).symm hword
  | case3 c rest hword n hn ih =>
    have hstart : TokenStart s i := hclear.tokenStart (c := shadowChar c) (by
      rw [getElem?_shadow hi, h]
      rfl) hword
    rw [← h, hitLength?_eq terms hi, Option.map_eq_some_iff] at hn
    obtain ⟨term, hfirst, hlength⟩ := hn
    have hmatch : Matches s term i := by simpa using List.find?_some hfirst
    -- the blank that ends the match stands where the scan goes on
    obtain ⟨hpos, hinside, hblank⟩ := hmatch.bounds hstart
    rw [hlength] at hpos hinside hblank
    have hdrop : (c :: rest.take (n - 1)).length = n := by
      have := congrArg List.length h
      simp at this ⊢
      omega
    have happend : s.drop i = (c :: rest.take (n - 1)) ++ rest.drop (n - 1) := by
      rw [h, List.cons_append, List.take_append_drop]
    have hrest := drop_add_of_drop_eq_append happend
    rw [hdrop] at hrest
    rw [spansFrom, hdrop]
    let span : Span := ⟨i, i + n⟩
    have hlater : Covers terms s span.stop _ := ih hrest hinside (.inr (.inr hblank))
    have hstop : span.stop = span.start + (Text.lower term).length := hlength ▸ rfl
    exact hlater.cons hstart hinside hfirst hstop (Nat.lt_add_of_pos_right hpos)
  | case4 c rest hword hnone ih =>
    -- the token that is passed over, and the position behind it
    let token : Text := c :: rest.takeWhile (shadowChar · != ' ')
    have htoken : ∀ d ∈ token, shadowChar d ≠ ' ' := by
      refine List.forall_mem_cons.2 ⟨hword, ?_⟩
      intro d hd
      simpa using List.all_eq_true.1 List.all_takeWhile d hd
    have happend : s.drop i = token ++ rest.dropWhile (shadowChar · != ' ') := by
      rw [h, List.cons_append, List.takeWhile_append_dropWhile]
    have hinside : i + token.length ≤ s.length := by
      have := congrArg List.length happend
      simp only [List.length_drop, List.length_append] at this
      omega
    have hrest := drop_add_of_drop_eq_append happend
    have hblank : (shadow s)[i + token.length]? = some ' ' := by
      rw [getElem?_shadow hinside, hrest, head?_shadow_dropWhile]
    refine (ih hrest hinside (.inr (.inr hblank))).of_later (Nat.le_add_right _ _) ?_
    intro k hik hk hstart term hterm hmatch
    rcases Nat.eq_or_lt_of_le hik with rfl | hlt
    · -- at its start no term matches
      rw [← h, hitLength?_eq terms hi, Option.map_eq_none_iff, firstMatch?,
        List.find?_eq_none] at hnone
      exact hnone term hterm (decide_eq_true hmatch)
    · -- further on no token starts
      obtain ⟨m, rfl⟩ := Nat.exists_eq_add_of_lt hlt
      have hm : m < token.length := by omega
      have hbehind := hstart.behind.resolve_left (by omega)
      rw [Nat.add_sub_cancel, getElem?_shadow_add happend hm] at hbehind
      exact htoken _ (List.getElem_mem hm) (Option.some.inj hbehind)

/-! ## Highlighted texts -/

/-- A text from a position on, with each of the spans wrapped and everything else copied. -/
def wrapFrom (markup : Markup) (s : Text) : Nat → List Span → Text
  | i, [] => s.drop i
  | i, span :: spans =>
    s.extract i span.start ++
      (markup.opening ++ s.extract span.start span.stop ++ markup.closing) ++
        wrapFrom markup s span.stop spans

/-- What stands before the first span is copied. -/
theorem extract_append_wrapFrom {spans : List Span} (hij : i ≤ j)
    (hspans : ∀ span ∈ spans, j ≤ span.start) :
    s.extract i j ++ wrapFrom markup s j spans = wrapFrom markup s i spans := by
  have hdrop : s.drop j = (s.drop i).drop (j - i) := by rw [List.drop_drop, Nat.add_sub_cancel' hij]
  cases spans with
  | nil => rw [wrapFrom, wrapFrom, hdrop, List.extract_eq_take_drop, List.take_append_drop]
  | cons span spans =>
    have hstart : j ≤ span.start := hspans span List.mem_cons_self
    have hcopied : s.extract i j ++ s.extract j span.start = s.extract i span.start := by
      have hlength : span.start - i = (j - i) + (span.start - j) := by omega
      simp only [List.extract_eq_take_drop]
      rw [hlength, List.take_add, hdrop]
    rw [wrapFrom, wrapFrom, ← hcopied]
    simp only [List.append_assoc]

theorem extract_of_drop_eq_append {rest : Text} (h : s.drop i = t ++ rest) :
    s.extract i (i + t.length) = t := by
  rw [List.extract_eq_take_drop, h, Nat.add_sub_cancel_left, List.take_left]

theorem le_start_of_mem_spansFrom {parts : List Segment} :
    ∀ span ∈ spansFrom i parts, i ≤ span.start := by
  induction parts generalizing i with
  | nil => nofun
  | cons part parts ih =>
    cases part with
    | plain t =>
      intro span hspan
      exact Nat.le_trans (Nat.le_add_right i _) (ih span hspan)
    | hit t =>
      refine List.forall_mem_cons.2 ⟨Nat.le_refl i, ?_⟩
      intro span hspan
      exact Nat.le_trans (Nat.le_add_right i _) (ih span hspan)

/-- **Segments are rendered as their text with the spans of the hits wrapped.** -/
theorem flatMap_render_eq {parts : List Segment} (h : s.drop i = parts.flatMap Segment.text) :
    parts.flatMap (Segment.render markup) = wrapFrom markup s i (spansFrom i parts) := by
  induction parts generalizing i with
  | nil => simp [spansFrom, wrapFrom, h]
  | cons part parts ih =>
    cases part with
    | plain t =>
      have happend : s.drop i = t ++ parts.flatMap Segment.text := h
      calc
        t ++ parts.flatMap (Segment.render markup)
            = s.extract i (i + t.length) ++
                wrapFrom markup s (i + t.length) (spansFrom (i + t.length) parts) := by
              rw [ih (drop_add_of_drop_eq_append happend), extract_of_drop_eq_append happend]
        _ = wrapFrom markup s i (spansFrom (i + t.length) parts) :=
              extract_append_wrapFrom (Nat.le_add_right i _) le_start_of_mem_spansFrom
    | hit t =>
      have happend : s.drop i = t ++ parts.flatMap Segment.text := h
      have hnone : s.extract i i = [] := by simp
      calc
        (markup.opening ++ t ++ markup.closing) ++ parts.flatMap (Segment.render markup)
            = (markup.opening ++ s.extract i (i + t.length) ++ markup.closing) ++
                wrapFrom markup s (i + t.length) (spansFrom (i + t.length) parts) := by
              rw [ih (drop_add_of_drop_eq_append happend), extract_of_drop_eq_append happend]
        _ = wrapFrom markup s i (⟨i, i + t.length⟩ :: spansFrom (i + t.length) parts) := by
              rw [wrapFrom, hnone, List.nil_append]

/-- **A highlighted text is the text with exactly the matches wrapped.** There is one and only one
list of spans in the text that are not empty, do not overlap and come in order, such that each starts
where a token starts, has the length of the first term that matches there, and no term matches at a
token start outside of them. The highlighted text has these spans wrapped and all else copied; with
empty markers it is the text itself. -/
theorem highlight_spans (markup : Markup) (terms : List Text) (s : Text) :
    (∃ spans, (∀ others, Covers terms s 0 others ↔ others = spans) ∧
      highlight markup terms s = wrapFrom markup s 0 spans) ∧
      highlight { markup with opening := [], closing := [] } terms s = s := by
  have hcovers : Covers terms s 0 (spansFrom 0 (segments (patterns terms) s)) :=
    covers_spansFrom terms rfl (Nat.zero_le _) (.inl rfl)
  refine ⟨⟨_, ?_, flatMap_render_eq (flatMap_text_segments _ s).symm⟩, ?_⟩
  · intro others
    constructor
    · intro hothers
      exact hothers.unique hcovers
    · rintro rfl
      exact hcovers
  · exact (marked_highlight _ terms s).eq_of_no_markers rfl rfl

/-- A term may take in several tokens; what stands between them is in the span. -/
example : spansFrom 0 (segments (patterns ["a b".toList, "a".toList]) "A-b a".toList) =
    [⟨0, 3⟩, ⟨4, 5⟩] := by
  decide +kernel

end Highlight
end SearchClient
