import SearchClient.Proofs.Console.Kept
import SearchClient.Proofs.Display.Entities
import SearchClient.Proofs.Display.Segments
import SearchClient.Proofs.Request.Terms

/-!
# What markers change in the console

In the console a highlighted text is to show what the text shows, in another style. The markers are
put in after the text was escaped, and the backslashes of the text guard whatever tag stands behind
them, a marker no less than a tag of the document.

1. `Highlight.Item` are the characters of a text and the markers in it, `Highlight.erase` and
   `Highlight.marked` the text without and with them;
2. `Highlight.Undisturbed` says that the markers stand clear of the backslashes, and
   `Highlight.textAfter_marked` that they then change nothing that is shown;
3. `Highlight.Snug` says how highlighting places its markers, and
   `Highlight.undisturbed_of_textAfter` that markers so placed must stand clear if nothing that is
   shown is to change;
4. `Highlight.highlight_shown` puts these together.
-/

namespace SearchClient

/-! ## Blanks in lower case -/

namespace Text

variable {c d : Char} {s : Text}

/-- Only a space has a space in its lower case. -/
theorem eq_space_of_mem_lowerChar (h : ' ' ∈ lowerChar c) : c = ' ' := by
  have hascii : ∀ n < 0x80, (Char.ofNat n).toLower = ' ' → Char.ofNat n = ' ' := by decide
  have hruns : ∀ r ∈ capitalRuns, 0x6B ≤ r.lowerOfFirst := by decide +kernel
  rw [lowerChar] at h
  split at h
  · rename_i hc
    have hspace := hascii c.toNat hc
    rw [Char.ofNat_toNat] at hspace
    exact hspace (List.mem_singleton.1 h).symm
  · split at h
    · simp at h
    · split at h
      · rename_i r hfind
        have hr := hruns r (List.mem_of_find?_eq_some hfind)
        have hcode := (List.mem_singleton.1 h).symm
        by_cases hvalid : (r.lowerOfFirst + (c.toNat - r.first)).isValidChar
        · rw [Char.ofNat, dif_pos hvalid] at hcode
          have hspace : r.lowerOfFirst + (c.toNat - r.first) = 0x20 := congrArg Char.toNat hcode
          omega
        · rw [Char.ofNat, dif_neg hvalid] at hcode
          exact absurd (congrArg Char.toNat hcode) (by decide)
      · exact (List.mem_singleton.1 h).symm

theorem lowerChar_ne_nil (c : Char) : lowerChar c ≠ [] := by
  rw [lowerChar]
  split
  · exact List.cons_ne_nil _ _
  · split
    · exact List.cons_ne_nil _ _
    · split <;> exact List.cons_ne_nil _ _

theorem lowerAfter_ne_nil (afterLetter : Bool) (c : Char) (s : Text) :
    lowerAfter afterLetter (c :: s) ≠ [] := by
  rw [lowerAfter]
  refine List.append_ne_nil_of_left_ne_nil ?_ _
  split
  · exact List.cons_ne_nil _ _
  · exact lowerChar_ne_nil c

/-- Only a text that ends in a space ends in one in lower case. -/
theorem getLast?_lower (h : (lower s).getLast? = some ' ') : s.getLast? = some ' ' := by
  rw [lower] at h
  generalize false = afterLetter at h
  induction s generalizing afterLetter with
  | nil => cases h
  | cons c s ih =>
    rw [lowerAfter, List.getLast?_append] at h
    cases s with
    | nil =>
      have hmem := List.mem_of_getLast? h
      split at hmem
      · simp at hmem
      · rw [eq_space_of_mem_lowerChar hmem]
        rfl
    | cons d s =>
      obtain ⟨last, hlast⟩ :=
        Option.isSome_iff_exists.1 (List.getLast?_isSome.2 (lowerAfter_ne_nil _ d s))
      rw [hlast, Option.some_or] at h
      rw [List.getLast?_cons_cons]
      exact ih _ (hlast.trans h)

end Text

namespace Highlight

open Console

/-! ## Items -/

/-- A character of a text, or a marker in it. -/
inductive Item where
  | char (c : Char)
  | opens
  | closes
  deriving DecidableEq

variable {naming : Naming} {items more : List Item} {c : Char} {n : Nat} {inside : Bool}
  {shown unmarked : Text}

/-- The text without its markers. -/
def erase : List Item → Text
  | [] => []
  | .char c :: items => c :: erase items
  | .opens :: items => erase items
  | .closes :: items => erase items

/-- The text with its markers, as console markup. -/
def marked : List Item → Text
  | [] => []
  | .char c :: items => c :: marked items
  | .opens :: items => Markup.console.opening ++ marked items
  | .closes :: items => Markup.console.closing ++ marked items

@[simp] theorem erase_append (items more : List Item) :
    erase (items ++ more) = erase items ++ erase more := by
  induction items with
  | nil => rfl
  | cons item items ih => cases item <;> simp [erase, ih]

@[simp] theorem erase_chars (s : Text) : erase (s.map .char) = s := by
  induction s with
  | nil => rfl
  | cons c s ih => rw [List.map_cons, erase, ih]

@[simp] theorem marked_append (items more : List Item) :
    marked (items ++ more) = marked items ++ marked more := by
  induction items with
  | nil => rfl
  | cons item items ih => cases item <;> simp [marked, ih]

@[simp] theorem marked_chars (s : Text) : marked (s.map .char) = s := by
  induction s with
  | nil => rfl
  | cons c s ih => rw [List.map_cons, marked, ih]

/-- The characters of a segment, with markers around those of a hit. -/
def Segment.toItems : Segment → List Item
  | plain s => s.map .char
  | hit s => .opens :: (s.map .char ++ [.closes])

theorem erase_segments (parts : List Segment) :
    erase (parts.flatMap Segment.toItems) = parts.flatMap Segment.text := by
  induction parts with
  | nil => rfl
  | cons part parts ih =>
    rw [List.flatMap_cons, List.flatMap_cons, erase_append, ih]
    cases part <;> simp [Segment.toItems, Segment.text, erase]

theorem marked_segments (parts : List Segment) :
    marked (parts.flatMap Segment.toItems) = parts.flatMap (Segment.render .console) := by
  induction parts with
  | nil => rfl
  | cons part parts ih =>
    rw [List.flatMap_cons, List.flatMap_cons, marked_append, ih]
    cases part <;> simp [Segment.toItems, Segment.render, marked]

/-- A text with the markers that highlighting puts into it. -/
def itemsOf (terms : List Text) (s : Text) : List Item :=
  (segments (patterns terms) s).flatMap Segment.toItems

@[simp] theorem erase_itemsOf (terms : List Text) (s : Text) : erase (itemsOf terms s) = s := by
  rw [itemsOf, erase_segments, flatMap_text_segments]

@[simp] theorem marked_itemsOf (terms : List Text) (s : Text) :
    marked (itemsOf terms s) = highlight .console terms s := by
  rw [itemsOf, marked_segments, highlight]

/-! ## Where markers stand -/

/-- Markers come in pairs, one pair behind the other. -/
def Nested (inside : Bool) : List Item → Prop
  | [] => inside = false
  | .char _ :: items => Nested inside items
  | .opens :: items => inside = false ∧ Nested true items
  | .closes :: items => inside = true ∧ Nested false items

/-- Behind `n` backslashes, no marker stands right behind a backslash, and none stands inside a tag
that has more than one backslash before it. -/
def Undisturbed (n : Nat) : List Item → Prop
  | [] => True
  | .char c :: items =>
    if c = '\\' then Undisturbed (n + 1) items
    else
      (c = '[' → 2 ≤ n → (tagBody? (erase items)).isSome = true →
        (tagBody? (marked items)).isSome = true) ∧ Undisturbed 0 items
  | .opens :: items => n = 0 ∧ Undisturbed 0 items
  | .closes :: items => n = 0 ∧ Undisturbed 0 items

instance decidableUndisturbed : (n : Nat) → (items : List Item) → Decidable (Undisturbed n items)
  | _, [] => inferInstanceAs (Decidable True)
  | n, .char c :: items =>
    have := decidableUndisturbed (n + 1) items
    have := decidableUndisturbed 0 items
    inferInstanceAs (Decidable (if c = '\\' then _ else _ ∧ _))
  | n, .opens :: items =>
    have := decidableUndisturbed 0 items
    inferInstanceAs (Decidable (n = 0 ∧ _))
  | n, .closes :: items =>
    have := decidableUndisturbed 0 items
    inferInstanceAs (Decidable (n = 0 ∧ _))

/-- Behind `n` backslashes, a marker that opens stands right before a word, and one that closes
stands behind no backslash. -/
def Snug (n : Nat) : List Item → Prop
  | [] => True
  | .char c :: items => Snug (if c = '\\' then n + 1 else 0) items
  | .opens :: items => (∃ c more, items = .char c :: more ∧ shadowChar c ≠ ' ') ∧ Snug 0 items
  | .closes :: items => n = 0 ∧ Snug 0 items

/-! ## Markers and tags -/

/-- A marker inside brackets breaks a tag and makes none. -/
theorem isSome_closeBracket?_erase (h : (closeBracket? (marked items)).isSome = true) :
    (closeBracket? (erase items)).isSome = true := by
  induction items with
  | nil => cases h
  | cons item items ih =>
    cases item with
    | char c =>
      rw [marked, closeBracket?] at h
      rw [erase, closeBracket?]
      split at h
      · rename_i hclose
        rw [if_pos hclose]
        rfl
      · split at h
        · cases h
        · rename_i hclose hopen
          rw [Option.isSome_map] at h
          rw [if_neg hclose, if_neg hopen, Option.isSome_map]
          exact ih h
    | opens => cases h
    | closes => cases h

theorem isSome_tagBody?_erase (h : (tagBody? (marked items)).isSome = true) :
    (tagBody? (erase items)).isSome = true := by
  cases items with
  | nil => cases h
  | cons item items =>
    cases item with
    | char c =>
      rw [marked] at h
      cases hstart : isTagStart c with
      | false =>
        rw [tagBody?, hstart] at h
        cases h
      | true =>
        rw [tagBody?_cons hstart, Option.isSome_map] at h
        rw [erase, tagBody?_cons hstart, Option.isSome_map]
        exact isSome_closeBracket?_erase h
    | opens => cases h
    | closes => cases h

/-! ## Markers as tags -/

/-- The name that an opening marker opens. -/
def markerName : Text := "bold black on yellow".toList

/-- The open names inside and outside a pair of markers. -/
def openNames (naming : Naming) (inside : Bool) : List Text :=
  if inside then [naming markerName] else []

theorem textAfter_opens (heven : n % 2 = 0) (stack : List Text) (items : List Item) :
    textAfter naming stack n (marked (.opens :: items)) =
      (textAfter naming (naming markerName :: stack) 0 (marked items)).map
        (backslashes (n / 2) ++ ·) := by
  have htag : tagBody? ("bold black on yellow]".toList ++ marked items) =
      some (markerName, marked items) := rfl
  change textAfter naming stack n ('[' :: ("bold black on yellow]".toList ++ marked items)) = _
  rw [textAfter_tag htag heven, opened?_name (by decide +kernel), Option.bind_some]

/-- Behind an odd number of backslashes an opening marker is shown. -/
theorem textAfter_opens_of_odd (naming : Naming) (hodd : n % 2 = 1) (stack : List Text)
    (items : List Item) :
    ∃ before, textAfter naming stack n (marked (.opens :: items)) =
      (textAfter naming stack 0 (marked items)).map (before ++ ·) := by
  have htag : tagBody? ("bold black on yellow]".toList ++ marked items) =
      some (markerName, marked items) := rfl
  have hbody : '[' ∉ markerName := by decide
  have hinside : textAfter naming stack 0 ("bold black on yellow]".toList ++ marked items) =
      (textAfter naming stack 0 (marked items)).map (backslashes 0 ++ markerName ++ ']' :: ·) :=
    textAfter_plain hbody (by decide) (by decide) stack 0 (marked items)
  refine ⟨backslashes (n / 2) ++ '[' :: (backslashes 0 ++ markerName ++ [']']), ?_⟩
  change textAfter naming stack n ('[' :: ("bold black on yellow]".toList ++ marked items)) = _
  rw [textAfter_guarded htag hodd, hinside, Option.map_map]
  congr 1
  funext t
  simp

theorem textAfter_closes (name : Text) (stack : List Text) (items : List Item) :
    textAfter naming (name :: stack) 0 (marked (.closes :: items)) =
      textAfter naming stack 0 (marked items) := by
  have htag : tagBody? ('/' :: ']' :: marked items) = some (['/'], marked items) := rfl
  have hopened : opened? naming ['/'] (name :: stack) = some stack := rfl
  change textAfter naming _ 0 ('[' :: '/' :: ']' :: marked items) = _
  rw [textAfter_tag htag rfl, hopened, Option.bind_some]
  cases textAfter naming stack 0 (marked items) <;> rfl

theorem textAfter_closes_nil (items : List Item) :
    textAfter naming [] 0 (marked (.closes :: items)) = none := by
  have htag : tagBody? ('/' :: ']' :: marked items) = some (['/'], marked items) := rfl
  have hopened : opened? naming ['/'] [] = none := rfl
  change textAfter naming _ 0 ('[' :: '/' :: ']' :: marked items) = _
  rw [textAfter_tag htag rfl, hopened, Option.bind_none]

/-! ## Markers that stand clear -/

theorem Guarded.marked (h : Guarded n c (erase items)) : Guarded n c (marked items) :=
  fun hopen hsome => h hopen (isSome_tagBody?_erase hsome)

/-- Of the backslashes before a tag that the markers break, all but one are shown in place of half of
them, so it makes no difference if there is but one. -/
theorem slashesShown_marked_iff (h : Guarded n c (erase items)) :
    slashesShown n c (marked items) = slashesShown n c (erase items) ↔
      (c = '[' → 2 ≤ n → (tagBody? (erase items)).isSome = true →
        (tagBody? (marked items)).isSome = true) := by
  have herase : (tagBody? (marked items)).isSome = true →
      (tagBody? (erase items)).isSome = true := isSome_tagBody?_erase
  rw [slashesShown, slashesShown]
  by_cases hopen : c = '['
  · rw [if_pos hopen, if_pos hopen]
    by_cases hmarked : (tagBody? (marked items)).isSome = true
    · rw [if_pos hmarked, if_pos (herase hmarked)]
      exact iff_of_true rfl fun _ _ _ => hmarked
    · rw [if_neg hmarked]
      by_cases hsome : (tagBody? (erase items)).isSome = true
      · have hodd := h hopen hsome
        rw [if_pos hsome]
        refine ⟨fun hslashes _ htwo _ => by omega, fun hbreaks => ?_⟩
        by_contra hslashes
        exact hmarked (hbreaks hopen (by omega) hsome)
      · rw [if_neg hsome]
        exact iff_of_true rfl fun _ _ h => absurd h hsome
  · rw [if_neg hopen, if_neg hopen]
    exact iff_of_true rfl fun h => absurd h hopen

/-- **Markers that stand clear of the backslashes change nothing that is shown.** -/
theorem textAfter_marked (hquiet : Quiet n (erase items)) (hclear : Undisturbed n items)
    (hnested : Nested inside items) :
    textAfter naming (openNames naming inside) n (marked items) =
      textAfter naming [] n (erase items) := by
  -- by induction on the items; within a pair of markers one more name is open, and nothing else differs
  induction items generalizing n inside with
  | nil => rw [marked, erase, textAfter_nil, textAfter_nil]
  | cons item items ih =>
    cases item with
    | char c =>
      rw [marked, erase]
      rw [erase] at hquiet
      rw [Undisturbed] at hclear
      by_cases hc : c = '\\'
      · subst hc
        rw [if_pos rfl] at hclear
        rw [textAfter_backslash, textAfter_backslash]
        exact ih ((quiet_backslash n _).1 hquiet) hclear hnested
      · rw [if_neg hc] at hclear
        obtain ⟨hguarded, hquiet⟩ := (quiet_cons hc n _).1 hquiet
        rw [textAfter_cons hc (Guarded.marked hguarded), textAfter_cons hc hguarded,
          (slashesShown_marked_iff hguarded).2 hclear.1, ih hquiet hclear.2 hnested]
    | opens =>
      obtain ⟨rfl, hclear⟩ := hclear
      obtain ⟨rfl, hnested⟩ := hnested
      have hmarked : textAfter naming [naming markerName] 0 (marked items) =
          textAfter naming [] 0 (erase items) :=
        ih hquiet hclear hnested
      rw [openNames, if_neg (by decide), textAfter_opens rfl, hmarked, erase]
      cases textAfter naming [] 0 (erase items) <;> rfl
    | closes =>
      obtain ⟨rfl, hclear⟩ := hclear
      obtain ⟨rfl, hnested⟩ := hnested
      have hmarked : textAfter naming [] 0 (marked items) = textAfter naming [] 0 (erase items) :=
        ih hquiet hclear hnested
      rw [openNames, if_pos rfl, textAfter_closes, hmarked, erase]

/-! ## Markers that do not -/

/-- A pair whose opening marker is shown, and opens nothing, has nothing to close. -/
theorem textAfter_marked_eq_none (hquiet : Quiet n (erase items)) (hsnug : Snug n items)
    (hnested : Nested true items) : textAfter naming [] n (marked items) = none := by
  induction items generalizing n with
  | nil => cases hnested
  | cons item items ih =>
    cases item with
    | char c =>
      rw [marked]
      rw [erase] at hquiet
      rw [Snug] at hsnug
      by_cases hc : c = '\\'
      · subst hc
        rw [textAfter_backslash]
        exact ih ((quiet_backslash n _).1 hquiet) hsnug hnested
      · rw [if_neg hc] at hsnug
        obtain ⟨hguarded, hquiet⟩ := (quiet_cons hc n _).1 hquiet
        rw [textAfter_cons hc (Guarded.marked hguarded), ih hquiet hsnug hnested]
        rfl
    | opens => exact absurd hnested.1 (by decide)
    | closes =>
      obtain ⟨rfl, -⟩ := hsnug
      exact textAfter_closes_nil items

theorem backslashes_append_cancel {i j : Nat} {s t : Text} (hc : c ≠ '\\')
    (h : backslashes i ++ c :: s = backslashes j ++ c :: t) : i = j ∧ s = t := by
  induction i generalizing j with
  | zero =>
    cases j with
    | zero => exact ⟨rfl, (List.cons.inj h).2⟩
    | succ j => exact absurd (List.cons.inj h).1 hc
  | succ i ih =>
    cases j with
    | zero => exact absurd (List.cons.inj h).1.symm hc
    | succ j =>
      obtain ⟨hij, hst⟩ := ih (List.cons.inj h).2
      exact ⟨congrArg (· + 1) hij, hst⟩

theorem printable_slashed (hc : isControl c = false) (n : Nat) (s : Text) :
    printable (backslashes n ++ c :: s) = backslashes n ++ c :: printable s := by
  have hslashes : printable (backslashes n) = backslashes n :=
    List.filter_eq_self.2 fun d hd => by rw [List.eq_of_mem_replicate hd]; rfl
  rw [printable_append, hslashes, printable, List.filter_cons_of_pos (by simp [hc]), printable]

/-- The first character of a word is shown as it is. -/
theorem plain_of_word (h : shadowChar c ≠ ' ') : c ≠ '\\' ∧ c ≠ '[' ∧ isControl c = false := by
  refine ⟨?_, ?_, ?_⟩
  · rintro rfl
    exact h (by decide +kernel)
  · rintro rfl
    exact h (by decide +kernel)
  · cases hcontrol : isControl c with
    | false => rfl
    | true =>
      have hblank : (['\x07', '\x08', '\x0B', '\x0C', '\r'].all (shadowChar · == ' ')) = true := by
        decide +kernel
      have hspace := List.all_eq_true.1 hblank c (List.contains_iff_mem.1 hcontrol)
      exact absurd (beq_iff_eq.1 hspace) h

/-- What is printed behind a character that is shown, and how many backslashes before it, unless it
is dropped. -/
theorem printable_slashed_cancel {i j : Nat} {s t : Text} (hc : c ≠ '\\')
    (hij : isControl c = true → i = j)
    (h : printable (backslashes i ++ c :: s) = printable (backslashes j ++ c :: t)) :
    i = j ∧ printable s = printable t := by
  cases hcontrol : isControl c with
  | false =>
    rw [printable_slashed hcontrol, printable_slashed hcontrol] at h
    exact backslashes_append_cancel hc h
  | true =>
    obtain rfl := hij hcontrol
    have hsplit : ∀ u, printable (backslashes i ++ c :: u) =
        printable (backslashes i ++ [c]) ++ printable u := fun u => by
      rw [← printable_append, List.append_assoc, List.singleton_append]
    rw [hsplit s, hsplit t] at h
    exact ⟨rfl, List.append_cancel_left h⟩

/-- **Markers that change nothing stand clear of the backslashes**, if they are placed as
highlighting places them. -/
theorem undisturbed_of_textAfter (hquiet : Quiet n (erase items)) (hsnug : Snug n items)
    (hnested : Nested inside items)
    (hmarked : textAfter naming (openNames naming inside) n (marked items) = some shown)
    (herased : textAfter naming [] n (erase items) = some unmarked)
    (hsame : printable shown = printable unmarked) : Undisturbed n items := by
  -- the same induction the other way: from texts that are the same, item by item
  induction items generalizing n inside shown unmarked with
  | nil => trivial
  | cons item items ih =>
    cases item with
    | char c =>
      rw [marked] at hmarked
      rw [erase] at hquiet herased
      rw [Snug] at hsnug
      rw [Undisturbed]
      by_cases hc : c = '\\'
      · subst hc
        rw [if_pos rfl]
        rw [textAfter_backslash] at hmarked herased
        exact ih ((quiet_backslash n _).1 hquiet) hsnug hnested hmarked herased hsame
      · rw [if_neg hc] at hsnug ⊢
        obtain ⟨hguarded, hquiet⟩ := (quiet_cons hc n _).1 hquiet
        rw [textAfter_cons hc (Guarded.marked hguarded)] at hmarked
        rw [textAfter_cons hc hguarded] at herased
        obtain ⟨rest, hrest, rfl⟩ := Option.map_eq_some_iff.1 hmarked
        obtain ⟨rest', hrest', rfl⟩ := Option.map_eq_some_iff.1 herased
        -- a character that is dropped is no left bracket
        have hdropped : isControl c = true →
            slashesShown n c (marked items) = slashesShown n c (erase items) := by
          intro hcontrol
          refine (slashesShown_marked_iff hguarded).2 ?_
          rintro rfl
          exact absurd hcontrol (by decide)
        obtain ⟨hslashes, hbehind⟩ := printable_slashed_cancel hc hdropped hsame
        exact ⟨(slashesShown_marked_iff hguarded).1 hslashes,
          ih hquiet hsnug hnested hrest hrest' hbehind⟩
    | opens =>
      obtain ⟨⟨c, more, rfl, hword⟩, hsnug⟩ := hsnug
      obtain ⟨rfl, hnested⟩ := hnested
      obtain ⟨hc, hopen, hcontrol⟩ := plain_of_word hword
      rcases Nat.mod_two_eq_zero_or_one n with heven | hodd
      · rw [textAfter_opens heven] at hmarked
        obtain ⟨rest, hrest, rfl⟩ := Option.map_eq_some_iff.1 hmarked
        -- the word behind the marker shows how many backslashes there are
        have hword := hrest
        have hword' := herased
        rw [marked, textAfter_char hc hopen] at hword
        rw [erase, erase, textAfter_char hc hopen] at hword'
        obtain ⟨behind, -, rfl⟩ := Option.map_eq_some_iff.1 hword
        obtain ⟨behind', -, rfl⟩ := Option.map_eq_some_iff.1 hword'
        have hslashes : n / 2 = n :=
          (printable_slashed_cancel hc (fun h => by rw [hcontrol] at h; cases h) hsame).1
        obtain rfl : n = 0 := by omega
        exact ⟨rfl, ih hquiet hsnug hnested hrest herased hsame⟩
      · obtain ⟨before, hbefore⟩ := textAfter_opens_of_odd naming hodd [] (.char c :: more)
        have hquiet' : Quiet 0 (c :: erase more) :=
          (quiet_cons hc 0 _).2 ⟨guarded_of_ne hopen 0 _, ((quiet_cons hc n _).1 hquiet).2⟩
        have hnone : textAfter naming [] 0 (marked (.char c :: more)) = none :=
          textAfter_marked_eq_none hquiet' hsnug hnested
        rw [openNames, if_neg (by decide), hbefore, hnone] at hmarked
        cases hmarked
    | closes =>
      obtain ⟨rfl, hsnug⟩ := hsnug
      obtain ⟨rfl, hnested⟩ := hnested
      rw [openNames, if_pos rfl, textAfter_closes] at hmarked
      exact ⟨rfl, ih hquiet hsnug hnested hmarked herased hsame⟩

/-! ## What is shown of markup that does not render -/

/-- The number of characters that are printed of a text, without its backslashes. -/
def weight (s : Text) : Nat := (printable (bare s)).length

theorem weight_append (s t : Text) : weight (s ++ t) = weight s + weight t := by
  rw [weight, bare_append, printable_append, List.length_append]
  rfl

theorem weight_printable (s : Text) : weight (printable s) = weight s := by
  have hcomm : bare (printable s) = printable (bare s) := by
    simp [bare, printable, List.filter_filter, Bool.and_comm]
  have htwice : printable (printable (bare s)) = printable (bare s) := by
    simp [printable]
  rw [weight, weight, hcomm, htwice]

/-- Markers add to the text. -/
theorem marked_eq_erase_or (items : List Item) :
    marked items = erase items ∨ weight (erase items) < weight (marked items) := by
  induction items with
  | nil => exact .inl rfl
  | cons item items ih =>
    have hle : weight (erase items) ≤ weight (marked items) := by
      rcases ih with heq | hlt
      · rw [heq]
      · omega
    cases item with
    | char c =>
      rcases ih with heq | hlt
      · exact .inl (by rw [marked, erase, heq])
      · refine .inr ?_
        have hcons : ∀ t, weight (c :: t) = weight [c] + weight t := weight_append [c]
        rw [marked, erase, hcons (erase items), hcons (marked items)]
        omega
    | opens =>
      have hopening : weight Markup.console.opening = 22 := by decide +kernel
      refine .inr ?_
      rw [marked, erase, weight_append, hopening]
      omega
    | closes =>
      have hclosing : weight Markup.console.closing = 3 := by decide +kernel
      refine .inr ?_
      rw [marked, erase, weight_append, hclosing]
      omega

theorem renderOrRaw_marked (hquiet : Quiet 0 (erase items)) (hclear : Undisturbed 0 items)
    (hnested : Nested false items) :
    renderOrRaw naming (marked items) = renderOrRaw naming (erase items) := by
  have herased := textAfter_of_quiet naming hquiet []
  have hmarked : textAfter naming [] 0 (marked items) = textAfter naming [] 0 (erase items) :=
    textAfter_marked hquiet hclear hnested
  rw [renderOrRaw_of_textAfter herased, renderOrRaw_of_textAfter (hmarked.trans herased)]

/-- **Markers change nothing that is shown exactly if they stand clear of the backslashes.** -/
theorem renderOrRaw_marked_iff (hquiet : Quiet 0 (erase items)) (hsnug : Snug 0 items)
    (hnested : Nested false items) :
    renderOrRaw naming (marked items) = renderOrRaw naming (erase items) ↔ Undisturbed 0 items := by
  refine ⟨fun hsame => ?_, fun hclear => renderOrRaw_marked hquiet hclear hnested⟩
  have herased := textAfter_of_quiet naming hquiet []
  rw [renderOrRaw_of_textAfter herased] at hsame
  cases hmarked : textAfter naming [] 0 (marked items) with
  | some shown =>
    rw [renderOrRaw_of_textAfter hmarked] at hsame
    exact undisturbed_of_textAfter hquiet hsnug hnested hmarked herased hsame
  | none =>
    -- the markers themselves are shown, and there are some
    rw [renderOrRaw_of_eq_none hmarked] at hsame
    have hweight : weight (marked items) = weight (erase items) := by
      rw [← weight_printable, hsame, weight_printable, weight, bare_append, bare_drawn,
        bare_backslashes, List.append_nil]
      rfl
    rcases marked_eq_erase_or items with heq | hlt
    · rw [heq, herased] at hmarked
      cases hmarked
    · omega

/-! ## How highlighting places its markers -/

theorem nested_chars (inside : Bool) (s : Text) (items : List Item) :
    Nested inside (s.map .char ++ items) ↔ Nested inside items := by
  induction s with
  | nil => rfl
  | cons c s ih => exact ih

theorem nested_itemsOf (terms : List Text) (s : Text) : Nested false (itemsOf terms s) := by
  rw [itemsOf]
  generalize segments (patterns terms) s = parts
  induction parts with
  | nil => rfl
  | cons part parts ih =>
    rw [List.flatMap_cons]
    cases part with
    | plain s => exact (nested_chars false s _).2 ih
    | hit s =>
      rw [Segment.toItems, List.cons_append, List.append_assoc]
      exact ⟨rfl, (nested_chars true s _).2 ⟨rfl, ih⟩⟩

/-- A hit begins with a word and ends with one. -/
def Segment.Worded : Segment → Prop
  | plain _ => True
  | hit s => (∃ c rest, s = c :: rest ∧ shadowChar c ≠ ' ') ∧ ∀ d ∈ s.getLast?, shadowChar d ≠ ' '

theorem map_take_of_standsAt {pattern s : Text} (h : standsAt pattern s = true) :
    (s.take pattern.length).map shadowChar = pattern := by
  induction pattern generalizing s with
  | nil => rfl
  | cons p pattern ih =>
    cases s with
    | nil => cases h
    | cons c s =>
      rw [standsAt, Bool.and_eq_true, beq_iff_eq] at h
      rw [List.length_cons, List.take_succ_cons, List.map_cons, ih h.2, h.1]

theorem worded_of_mem_segments {targets : List Text} {s : Text}
    (htargets : ∀ pattern ∈ targets, pattern.getLast? ≠ some ' ') :
    ∀ part ∈ segments targets s, part.Worded := by
  fun_induction segments targets s with
  | case1 =>
    intro part hpart
    cases hpart
  | case2 c rest hblank ih => exact List.forall_mem_cons.2 ⟨trivial, ih⟩
  | case3 c rest hword n hn ih =>
    refine List.forall_mem_cons.2 ⟨⟨⟨c, _, rfl, hword⟩, ?_⟩, ih⟩
    obtain ⟨pattern, hmem, hstands, rfl⟩ := exists_of_hitLength? hn
    cases pattern with
    | nil =>
      rw [standsAt, not_atBoundary hword] at hstands
      cases hstands
    | cons p pattern =>
      intro d hd hblank
      have hmap : (c :: rest.take pattern.length).map shadowChar = p :: pattern :=
        map_take_of_standsAt hstands
      have hend : (c :: rest.take pattern.length).getLast? = some d := hd
      have hlast := congrArg List.getLast? hmap
      rw [List.getLast?_map, hend, Option.map_some, hblank] at hlast
      exact htargets _ hmem hlast.symm
  | case4 c rest hword hnone ih => exact List.forall_mem_cons.2 ⟨trivial, ih⟩

theorem snug_chars (n : Nat) (s : Text) (items : List Item) :
    Snug n (s.map .char ++ items) ↔ Snug (trailing n s) items := by
  induction s generalizing n with
  | nil => rfl
  | cons c s ih =>
    rw [List.map_cons, List.cons_append, Snug, ih, trailing]
    split <;> rfl

theorem trailing_eq_zero {s : Text} (hne : s ≠ []) (h : ∀ d ∈ s.getLast?, d ≠ '\\') (n : Nat) :
    trailing n s = 0 := by
  induction s generalizing n with
  | nil => exact absurd rfl hne
  | cons c s ih =>
    cases s with
    | nil => exact trailing_char (h c rfl) n []
    | cons d s =>
      rw [List.getLast?_cons_cons] at h
      by_cases hc : c = '\\'
      · subst hc
        rw [trailing_backslash]
        exact ih (List.cons_ne_nil d s) h (n + 1)
      · rw [trailing_char hc]
        exact ih (List.cons_ne_nil d s) h 0

theorem snug_segments {parts : List Segment} (hparts : ∀ part ∈ parts, part.Worded) (n : Nat) :
    Snug n (parts.flatMap Segment.toItems) := by
  induction parts generalizing n with
  | nil => trivial
  | cons part parts ih =>
    obtain ⟨hpart, hrest⟩ := List.forall_mem_cons.1 hparts
    rw [List.flatMap_cons]
    cases part with
    | plain s => exact (snug_chars n s _).2 (ih hrest _)
    | hit s =>
      obtain ⟨⟨c, rest, rfl, hword⟩, hlast⟩ := hpart
      have htrailing : trailing 0 (c :: rest) = 0 :=
        trailing_eq_zero (List.cons_ne_nil c rest) (fun d hd => (plain_of_word (hlast d hd)).1) 0
      rw [Segment.toItems, List.cons_append, List.append_assoc]
      exact ⟨⟨c, _, rfl, hword⟩, (snug_chars 0 _ _).2 ⟨htrailing, ih hrest 0⟩⟩

theorem snug_itemsOf {terms : List Text} (hterms : ∀ term ∈ terms, term.getLast? ≠ some ' ')
    (s : Text) : Snug 0 (itemsOf terms s) := by
  refine snug_segments (worded_of_mem_segments fun pattern hpattern hlast => ?_) 0
  obtain ⟨term, hterm, rfl⟩ := List.mem_map.1 hpattern
  exact hterms term (List.mem_filter.1 hterm).1 (Text.getLast?_lower hlast)

/-! ## Texts without a backslash -/

/-- Behind `n` backslashes, a backslash stands alone right before a left bracket. -/
def Guards (n : Nat) : Text → Prop
  | [] => n = 0
  | c :: s =>
    if c = '\\' then n = 0 ∧ Guards 1 s else (n = 0 ∨ n = 1 ∧ c = '[') ∧ Guards 0 s

theorem guards_escape {t : Text} (h : '\\' ∉ t) : Guards 0 (escape t) := by
  rw [escape_eq]
  induction t with
  | nil =>
    rw [escapedAfter_nil]
    rfl
  | cons c t ih =>
    rw [List.mem_cons, not_or] at h
    have hc := Ne.symm h.1
    have hrest := ih h.2
    rw [escapedAfter_cons hc, slashesWritten]
    split
    · rename_i htag
      obtain ⟨rfl, -⟩ := htag
      exact ⟨rfl, .inr ⟨rfl, rfl⟩, hrest⟩
    · show Guards 0 (c :: escapedAfter 0 t)
      rw [Guards, if_neg hc]
      exact ⟨.inl rfl, hrest⟩

theorem undisturbed_of_guards (hguards : Guards n (erase items)) (hsnug : Snug n items) :
    Undisturbed n items := by
  induction items generalizing n with
  | nil => trivial
  | cons item items ih =>
    cases item with
    | char c =>
      rw [erase, Guards] at hguards
      rw [Snug] at hsnug
      rw [Undisturbed]
      by_cases hc : c = '\\'
      · rw [if_pos hc] at hguards hsnug ⊢
        obtain ⟨rfl, hguards⟩ := hguards
        exact ih hguards hsnug
      · rw [if_neg hc] at hguards hsnug ⊢
        exact ⟨fun _ htwo => by omega, ih hguards.2 hsnug⟩
    | opens =>
      obtain ⟨⟨c, more, rfl, hword⟩, hsnug⟩ := hsnug
      obtain ⟨hc, hopen, -⟩ := plain_of_word hword
      have hfirst := hguards
      rw [erase, erase, Guards, if_neg hc] at hfirst
      obtain rfl : n = 0 := hfirst.1.resolve_right fun h => hopen h.2
      exact ⟨rfl, ih hguards hsnug⟩
    | closes =>
      obtain ⟨rfl, hsnug⟩ := hsnug
      exact ⟨rfl, ih hguards hsnug⟩

/-! ## The law -/

/-- **What highlighting changes in the console**, however it names its styles. If the markers stand
clear of the backslashes of the escaped text, the highlighted text shows what the text shows: no
marker is shown, and no part of the text is taken for a tag. For terms that do not end in a space the condition is the right one:
the highlighted text shows the same if and only if the markers stand clear. And a text without a
backslash shows the same whatever such terms are highlighted in it. -/
theorem highlight_shown (naming : Naming) (terms : List Text) (t : Text) :
    let shown := renderOrRaw naming (highlight .console terms (Escaping.console.apply t))
    let unmarked := renderOrRaw naming (Escaping.console.apply t)
    let clear := Undisturbed 0 (itemsOf terms (Escaping.console.apply t))
    (clear → shown = unmarked) ∧
    ((∀ term ∈ terms, term.getLast? ≠ some ' ') →
      (shown = unmarked ↔ clear) ∧ ('\\' ∉ t → shown = unmarked)) := by
  intro shown unmarked clear
  let items := itemsOf terms (escape t)
  have hmarked : marked items = highlight .console terms (escape t) := marked_itemsOf terms _
  have herase : erase items = escape t := erase_itemsOf terms _
  have hquiet : Quiet 0 (erase items) := by
    rw [herase]
    exact quiet_escape t
  have hnested : Nested false items := nested_itemsOf terms _
  have hshown : shown = renderOrRaw naming (marked items) := by rw [hmarked]; rfl
  have hunmarked : unmarked = renderOrRaw naming (erase items) := by rw [herase]; rfl
  rw [hshown, hunmarked]
  refine ⟨fun hclear => renderOrRaw_marked hquiet hclear hnested, fun hterms => ?_⟩
  have hsnug : Snug 0 items := snug_itemsOf hterms _
  refine ⟨renderOrRaw_marked_iff hquiet hsnug hnested, fun hplain => ?_⟩
  have hguards : Guards 0 (erase items) := by
    rw [herase]
    exact guards_escape hplain
  exact renderOrRaw_marked hquiet (undisturbed_of_guards hguards hsnug) hnested

/-- One term stands in a tag of the document, and another some way behind a backslash. -/
theorem highlight_shown_sample :
    let terms := Terms.ofQuery "tag report".toList
    let t := "[tag] in C:\\temp: a Report".toList
    (∀ term ∈ terms, term.getLast? ≠ some ' ') ∧
      Undisturbed 0 (itemsOf terms (Escaping.console.apply t)) ∧
      highlight .console terms (Escaping.console.apply t) =
        ("\\[[bold black on yellow]tag[/]] in C:\\temp: a " ++
          "[bold black on yellow]Report[/]").toList ∧
      renderOrRaw .plain (highlight .console terms (Escaping.console.apply t)) = t := by
  intro terms t
  have hterms : ∀ term ∈ terms, term.getLast? ≠ some ' ' := fun _ =>
    Terms.getLast?_of_mem_ofQuery
  have hclear : Undisturbed 0 (itemsOf terms (Escaping.console.apply t)) := by decide +kernel
  have hshown := ((highlight_shown .plain terms t).2 hterms).1.2 hclear
  exact ⟨hterms, hclear, by decide +kernel, hshown.trans (by decide +kernel)⟩

/-- A term right behind a backslash: the backslash guards the opening marker, the closing one
closes nothing, and both are shown. Two backslashes before a term are shown as one, and a term in a
tag that has a backslash of its own shows one more. -/
theorem highlight_shows_markers :
    let shown := fun (term t : String) =>
      renderOrRaw .plain (highlight .console [term.toList] (Escaping.console.apply t.toList))
    let unmarked := fun (t : String) => renderOrRaw .plain (Escaping.console.apply t.toList)
    shown "report" "C:\\report" = "C:\\[bold black on yellow]report[/]".toList ∧
      unmarked "C:\\report" = "C:\\report".toList ∧
      shown "b" "a\\\\b" = "a\\b".toList ∧ unmarked "a\\\\b" = "a\\\\b".toList ∧
      shown "b" "a\\[b]" = "a\\\\[b]".toList ∧ unmarked "a\\[b]" = "a\\[b]".toList := by
  decide +kernel

end Highlight
end SearchClient
