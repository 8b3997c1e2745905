import Mathlib.Algebra.Ring.Parity
import SearchClient.Proofs.Request.Terms

/-!
# The stretches of a query

The double quotes of a query cut it into stretches, which lie outside and inside quotes by turns.
Each stretch has its terms for itself: what stands before and behind it adds terms before and behind
them, and an open phrase ends at the end of the query.

1. `Terms.ofPart` reads a part of a query that begins outside or inside quotes, and
   `Terms.ofPart_append_quote` cuts it at any of its quotes;
2. `Terms.ofPart_opened` and `Terms.ofPart_closed` read a stretch, with what stands before it and
   with what stands behind it;
3. `Terms.ofQuery_grouped` says what the terms of a query are.
-/

namespace SearchClient

namespace Text

variable {s : Text} {x : Char}

/-- The text less all its white space. -/
def withoutBlanks (s : Text) : Text := s.filter fun c => !isBlank c

@[simp] theorem withoutBlanks_append (s t : Text) :
    withoutBlanks (s ++ t) = withoutBlanks s ++ withoutBlanks t :=
  List.filter_append s t

theorem withoutBlanks_trim (s : Text) : withoutBlanks (trim s) = withoutBlanks s :=
  filter_stripBy isBlank s

theorem withoutBlanks_eq_nil_iff : withoutBlanks s = [] ↔ s.all isBlank = true := by
  simp [withoutBlanks]

theorem trim_eq_nil_iff : trim s = [] ↔ withoutBlanks s = [] := by
  rw [trim, stripBy_eq_nil_iff, withoutBlanks_eq_nil_iff, List.all_eq_true]

theorem withoutBlanks_without_comm (unwanted s : Text) :
    withoutBlanks (without unwanted s) = without unwanted (withoutBlanks s) := by
  rw [withoutBlanks, without, withoutBlanks, without, List.filter_filter, List.filter_filter]
  exact List.filter_congr fun c _ => Bool.and_comm ..

theorem withoutBlanks_without (hx : isBlank x = true) (s : Text) :
    withoutBlanks (without [x] s) = withoutBlanks s := by
  rw [withoutBlanks, without, List.filter_filter]
  apply List.filter_congr
  intro c _
  by_cases hc : c = x
  · rw [hc, hx]
    rfl
  · simp [hc]

end Text

namespace Terms

variable {before part rest stretch term : Text} {quoted : Bool}

/-! ## Parts -/

/-- The terms of a part of a query that begins outside or inside quotes. -/
def ofPart (quoted : Bool) (part : Text) : List Text :=
  ofStretches quoted ((unbroken part).splitOn '"')

theorem ofQuery_eq_ofPart (query : Text) : ofQuery query = ofPart false query := rfl

theorem ofPart_nil (quoted : Bool) : ofPart quoted [] = [] := by
  cases quoted <;> rfl

theorem ofStretches_append (quoted : Bool) (stretches stretches' : List Text) :
    ofStretches quoted (stretches ++ stretches') =
      ofStretches quoted stretches ++ ofStretches (not^[stretches.length] quoted) stretches' := by
  induction stretches generalizing quoted with
  | nil => rfl
  | cons stretch stretches ih =>
    rw [List.cons_append, ofStretches, ih, ofStretches, List.length_cons,
      Function.iterate_succ_apply, List.append_assoc]

theorem unbroken_append (s t : Text) : unbroken (s ++ t) = unbroken s ++ unbroken t :=
  List.map_append

theorem unbroken_quote (s : Text) : unbroken ('"' :: s) = '"' :: unbroken s := rfl

/-- Reading line breaks as spaces changes only blanks. -/
theorem filter_unbroken {p : Char → Bool} (hspace : p ' ' = false) (hreturn : p '\r' = false)
    (hfeed : p '\n' = false) (s : Text) : (unbroken s).filter p = s.filter p := by
  induction s with
  | nil => rfl
  | cons c s ih =>
    rw [← List.singleton_append, unbroken_append, List.filter_append, List.filter_append, ih]
    congr 1
    by_cases hbreak : c = '\r' ∨ c = '\n'
    · rcases hbreak with rfl | rfl
      · simp [unbroken, hspace, hreturn]
      · simp [unbroken, hspace, hfeed]
    · simp [unbroken, hbreak]

theorem count_unbroken (s : Text) : (unbroken s).count '"' = s.count '"' := by
  rw [List.count_eq_countP, List.count_eq_countP, List.countP_eq_length_filter,
    List.countP_eq_length_filter, filter_unbroken rfl rfl rfl]

theorem withoutBlanks_unbroken (s : Text) :
    Text.withoutBlanks (unbroken s) = Text.withoutBlanks s :=
  filter_unbroken (by decide) (by decide) (by decide) s

/-- A part may be cut at any of its quotes. The quotes before the cut and the one at the cut tell on
which side of a quote the rest begins. -/
theorem ofPart_append_quote (quoted : Bool) (s t : Text) :
    ofPart quoted (s ++ '"' :: t) =
      ofPart quoted s ++ ofPart (not^[s.count '"' + 1] quoted) t := by
  rw [ofPart, unbroken_append, unbroken_quote, List.splitOn_append_cons_self, ofStretches_append,
    Text.length_splitOn, count_unbroken]
  rfl

/-! ## Stretches -/

/-- The terms of a stretch. -/
def ofStretch (quoted : Bool) (stretch : Text) : List Text :=
  if quoted then phrase (unbroken stretch) else words (unbroken stretch)

theorem ofPart_of_unquoted (h : '"' ∉ stretch) (quoted : Bool) :
    ofPart quoted stretch = ofStretch quoted stretch := by
  have hunquoted : '"' ∉ unbroken stretch := by
    rw [← List.count_eq_zero, count_unbroken]
    exact List.count_eq_zero.2 h
  rw [ofPart, List.splitOn_eq_singleton hunquoted, ofStretches, ofStretches, List.append_nil,
    ofStretch]

/-- What stands before a stretch adds its terms before those of the stretch. -/
theorem ofPart_opened (h : before = [] ∨ before.getLast? = some '"') (quoted : Bool) (part : Text) :
    ofPart quoted (before ++ part) =
      ofPart quoted before ++ ofPart (not^[before.count '"'] quoted) part := by
  rcases h with rfl | hlast
  · rw [ofPart_nil]
    rfl
  · obtain ⟨s, rfl⟩ := List.getLast?_eq_some_iff.1 hlast
    -- the last quote of what stands before is a cut of that text and of the whole alike
    have hcut := ofPart_append_quote quoted s []
    rw [ofPart_nil, List.append_nil] at hcut
    rw [hcut, List.append_assoc, List.singleton_append, ofPart_append_quote, List.count_append]
    rfl

/-- What stands behind a stretch adds its terms behind those of the stretch. -/
theorem ofPart_closed (hstretch : '"' ∉ stretch) (h : rest = [] ∨ rest.head? = some '"')
    (quoted : Bool) :
    ofPart quoted (stretch ++ rest) = ofStretch quoted stretch ++ ofPart (!quoted) rest.tail := by
  rcases h with rfl | hhead
  · rw [List.append_nil, List.tail_nil, ofPart_nil, List.append_nil, ofPart_of_unquoted hstretch]
  · obtain ⟨t, rfl⟩ := List.head?_eq_some_iff.1 hhead
    rw [ofPart_append_quote, List.count_eq_zero.2 hstretch, ofPart_of_unquoted hstretch]
    rfl

/-- `stretch` stands in a query behind `before` and in front of `rest`, and reaches on both sides up
to a double quote or to the end of the query. -/
structure Stretch (query before stretch rest : Text) : Prop where
  whole : query = before ++ stretch ++ rest
  unquoted : '"' ∉ stretch
  opened : before = [] ∨ before.getLast? = some '"'
  closed : rest = [] ∨ rest.head? = some '"'

namespace Stretch

variable {query : Text}

theorem ofQuery_eq (h : Stretch query before stretch rest) :
    ofQuery query = ofQuery before ++ (ofStretch (not^[before.count '"'] false) stretch ++
      ofPart (!not^[before.count '"'] false) rest.tail) := by
  rw [ofQuery_eq_ofPart, h.whole, List.append_assoc, ofPart_opened h.opened,
    ofPart_closed h.unquoted h.closed]
  rfl

end Stretch

/-- The number of quotes before a stretch tells on which side of them it lies. -/
theorem inside_of_odd (h : Odd (before.count '"')) : not^[before.count '"'] false = true := by
  rw [Bool.involutive_not.iterate_odd h]
  rfl

theorem outside_of_even (h : Even (before.count '"')) : not^[before.count '"'] false = false := by
  rw [Bool.involutive_not.iterate_even h]
  rfl

/-! ## The terms of a stretch -/

/-- A stretch inside quotes is one term, or none if it is blank. -/
theorem ofStretch_inside (stretch : Text) :
    ofStretch true stretch =
      if stretch.all Text.isBlank then [] else [Text.trim (unbroken stretch)] := by
  have hblank : (Text.trim (unbroken stretch)).isEmpty = stretch.all Text.isBlank := by
    rw [Bool.eq_iff_iff, List.isEmpty_iff, Text.trim_eq_nil_iff, withoutBlanks_unbroken,
      Text.withoutBlanks_eq_nil_iff]
  rw [ofStretch, if_pos rfl, phrase, hblank]

/-- A term from outside quotes has no plain space. -/
theorem not_mem_of_mem_words (h : term ∈ words stretch) : ' ' ∉ term := by
  obtain ⟨piece, hpiece, hphrase⟩ := List.mem_flatMap.1 h
  intro hspace
  exact (Text.mem_of_mem_splitOn hpiece (mem_of_mem_phrase hphrase hspace)).2 rfl

/-- Every term comes from a stretch of the query. -/
theorem exists_stretch_of_mem_ofPart (before : Text)
    (hopened : before = [] ∨ before.getLast? = some '"')
    (h : term ∈ ofPart (not^[before.count '"'] false) part) :
    ∃ before' stretch rest, Stretch (before ++ part) before' stretch rest ∧
      term ∈ ofStretch (not^[before'.count '"'] false) stretch := by
  -- by the number of quotes that are left
  induction hcount : part.count '"' generalizing before part with
  | zero =>
    have hpart : '"' ∉ part := List.count_eq_zero.1 hcount
    rw [ofPart_of_unquoted hpart] at h
    exact ⟨before, part, [], ⟨(List.append_nil _).symm, hpart, hopened, .inl rfl⟩, h⟩
  | succ n ih =>
    have hmem : '"' ∈ part := List.count_pos_iff.1 (by omega)
    obtain ⟨stretch, rest, rfl, hstretch⟩ := List.eq_append_cons_of_mem hmem
    have hnone : stretch.count '"' = 0 := List.count_eq_zero.2 hstretch
    rw [ofPart_closed hstretch (.inr rfl), List.mem_append] at h
    rcases h with hhere | hbehind
    · exact ⟨before, stretch, '"' :: rest,
        ⟨(List.append_assoc ..).symm, hstretch, hopened, .inr rfl⟩, hhere⟩
    · -- the first stretch goes over to what stands before, with the quote at its end
      have hbefore : (before ++ stretch ++ ['"']).count '"' = before.count '"' + 1 := by
        rw [List.count_append, List.count_append, hnone]
        rfl
      have hrest : rest.count '"' = n := by
        rw [List.count_append, hnone, List.count_cons_self] at hcount
        omega
      have hwhole : before ++ (stretch ++ '"' :: rest) = before ++ stretch ++ ['"'] ++ rest := by
        simp
      rw [hwhole]
      apply ih _ (.inr List.getLast?_concat) _ hrest
      rw [hbefore, Function.iterate_succ_apply']
      exact hbehind

/-! ## Nothing is lost -/

theorem flatten_phrase (stretch : Text) : (phrase stretch).flatten = Text.trim stretch := by
  rw [phrase]
  split
  · rename_i hempty
    exact (List.isEmpty_iff.1 hempty).symm
  · exact List.append_nil _

theorem withoutBlanks_words (stretch : Text) :
    Text.withoutBlanks (words stretch).flatten = Text.withoutBlanks stretch := by
  have hpieces : ∀ pieces : List Text, Text.withoutBlanks (pieces.flatMap phrase).flatten =
      Text.withoutBlanks pieces.flatten := by
    intro pieces
    induction pieces with
    | nil => rfl
    | cons piece pieces ih =>
      rw [List.flatMap_cons, List.flatten_append, List.flatten_cons, Text.withoutBlanks_append,
        Text.withoutBlanks_append, ih, flatten_phrase, Text.withoutBlanks_trim]
  rw [words, hpieces, Text.flatten_splitOn, Text.withoutBlanks_without (by decide)]

theorem withoutBlanks_ofStretches (quoted : Bool) (stretches : List Text) :
    Text.withoutBlanks (ofStretches quoted stretches).flatten =
      Text.withoutBlanks stretches.flatten := by
  induction stretches generalizing quoted with
  | nil => rfl
  | cons stretch stretches ih =>
    rw [ofStretches, List.flatten_append, List.flatten_cons, Text.withoutBlanks_append,
      Text.withoutBlanks_append, ih]
    cases quoted with
    | true => rw [if_pos rfl, flatten_phrase, Text.withoutBlanks_trim]
    | false => rw [if_neg Bool.false_ne_true, withoutBlanks_words]

theorem withoutBlanks_ofQuery (query : Text) :
    Text.withoutBlanks (ofQuery query).flatten =
      Text.withoutBlanks (Text.without ['"'] query) := by
  rw [ofQuery, withoutBlanks_ofStretches, Text.flatten_splitOn, Text.withoutBlanks_without_comm,
    withoutBlanks_unbroken, Text.withoutBlanks_without_comm]

/-! ## The terms of a query -/

/-- **The terms of a query are its text, grouped by its quotes.** They have every character but
quotes and white space, in order. What stands behind an odd number of quotes, up to the next one or to
the end, is one term at its place: trimmed, its line breaks read as spaces; if it is blank it is none.
What stands behind an even number has its terms for itself, none of them with a plain space, and every
term is from one stretch or another. -/
theorem ofQuery_grouped (query : Text) :
    Text.withoutBlanks (ofQuery query).flatten =
        Text.withoutBlanks (Text.without ['"'] query) ∧
      (∀ before stretch rest, Stretch query before stretch rest → Odd (before.count '"') →
        ofQuery query = ofQuery before ++
          (if stretch.all Text.isBlank then [] else [Text.trim (unbroken stretch)]) ++
            ofQuery rest.tail) ∧
      (∀ before stretch rest, Stretch query before stretch rest → Even (before.count '"') →
        ofQuery query = ofQuery before ++ ofQuery stretch ++ ofQuery rest ∧
          ∀ term ∈ ofQuery stretch, ' ' ∉ term) ∧
      ∀ term ∈ ofQuery query, ∃ before stretch rest, Stretch query before stretch rest ∧
        (Odd (before.count '"') ∧ term = Text.trim (unbroken stretch) ∨
          Even (before.count '"') ∧ term ∈ ofQuery stretch) := by
  refine ⟨withoutBlanks_ofQuery query, ?_, ?_, ?_⟩
  · intro before stretch rest h hodd
    rw [h.ofQuery_eq, inside_of_odd hodd, ofStretch_inside, List.append_assoc]
    rfl
  · intro before stretch rest h heven
    have hstretch := ofPart_of_unquoted h.unquoted false
    -- the stretch that is cut off `rest` is empty and lies outside, so it gives no term
    have hrest : ofPart false rest = ofPart true rest.tail :=
      ofPart_closed (List.not_mem_nil : '"' ∉ ([] : Text)) h.closed false
    constructor
    · rw [h.ofQuery_eq, outside_of_even heven, ofQuery_eq_ofPart stretch, ofQuery_eq_ofPart rest,
        hstretch, hrest, List.append_assoc]
      rfl
    · intro term hterm
      rw [ofQuery_eq_ofPart, hstretch] at hterm
      exact not_mem_of_mem_words hterm
  · intro term hterm
    obtain ⟨before, stretch, rest, h, hmem⟩ :=
      exists_stretch_of_mem_ofPart [] (.inl rfl) hterm
    refine ⟨before, stretch, rest, h, ?_⟩
    rcases Nat.even_or_odd (before.count '"') with heven | hodd
    · rw [outside_of_even heven, ← ofPart_of_unquoted h.unquoted] at hmem
      exact .inr ⟨heven, hmem⟩
    · rw [inside_of_odd hodd, ofStretch_inside] at hmem
      split at hmem
      · cases hmem
      · exact .inl ⟨hodd, List.mem_singleton.1 hmem⟩

/-- A line break within a phrase, a blank phrase right behind a word, and an open one. -/
theorem ofQuery_grouped_sample :
    let query := "a\t \"b\r\nc \" d\"\u3000\"e \"f g".toList
    let before := "a\t \"".toList
    let stretch := "b\r\nc ".toList
    let rest := "\" d\"\u3000\"e \"f g".toList
    Stretch query before stretch rest ∧ Odd (before.count '"') ∧
      ofQuery query =
        ["a".toList, "b  c".toList, "d".toList, "e".toList, "f g".toList] := by
  intro query before stretch rest
  have h : Stretch query before stretch rest :=
    ⟨by decide, by decide, .inr (by decide), .inr (by decide)⟩
  have hodd : Odd (before.count '"') := by decide
  have hgrouped := (ofQuery_grouped query).2.1 before stretch rest h hodd
  exact ⟨h, hodd, hgrouped.trans (by decide +kernel)⟩

end Terms
end SearchClient
