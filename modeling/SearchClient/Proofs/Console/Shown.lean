import SearchClient.Console.Rendering
import SearchClient.Proofs.Display.Escaping

/-!
# What markup shows, character by character

Markup is scanned for tags before it is rendered. The laws of rendering are easier to state of the
text itself, one character after the other: a left bracket shows itself unless it opens a tag that
acts, and the backslashes before it are the only characters that are ever lost.

1. `Console.textAfter` is the text that markup shows, with one equation for each kind of first
   character (`textAfter_char`, `textAfter_bracket`, `textAfter_guarded`, `textAfter_tag`);
2. `Console.Quiet` says that no tag of a text acts, and `Console.drawn` is then what it shows, with
   `Console.trailing` backslashes left over at its end;
3. `Console.Straddles` says that a tag begins in one text and ends in the next;
   `Console.textAfter_append` is the law of texts put together without one;
4. `Console.textAfter_styled` says what a stretch in a style shows, and `Console.Literal` texts mean
   themselves;
5. `Console.quiet_escape` says that no tag of an escaped text acts.

All this holds however styles are named, as a closing tag is compared in the form that its opening tag
has been put in.
-/

namespace SearchClient
namespace Console

variable {naming : Naming} {a b s body rest more : Text} {c : Char} {n : Nat} {stack : List Text}

/-! ## Brackets -/

theorem not_mem_of_closeBracket? (h : closeBracket? s = some (body, rest)) : '[' ∉ body := by
  induction s generalizing body with
  | nil => cases h
  | cons c s ih =>
    unfold closeBracket? at h
    split at h
    · cases h
      exact List.not_mem_nil
    · split at h
      · cases h
      · rename_i hopen
        rcases Option.map_eq_some_iff.1 h with ⟨⟨b, r⟩, hb, heq⟩
        cases heq
        rw [List.mem_cons, not_or]
        exact ⟨fun hc => hopen hc.symm, ih hb⟩

/-- A right bracket is found in what stands first, or else behind it. -/
theorem closeBracket?_append (h : closeBracket? b = none) (a : Text) :
    closeBracket? (a ++ b) = (closeBracket? a).map fun (body, rest) => (body, rest ++ b) := by
  induction a with
  | nil => exact h
  | cons c a ih =>
    rw [List.cons_append, closeBracket?, closeBracket?, ih]
    split
    · rfl
    · split
      · rfl
      · cases closeBracket? a <;> rfl

theorem closeBracket?_append_of_some (h : closeBracket? a = some (body, rest)) (b : Text) :
    closeBracket? (a ++ b) = some (body, rest ++ b) := by
  induction a generalizing body with
  | nil => cases h
  | cons c a ih =>
    rw [List.cons_append]
    unfold closeBracket? at h ⊢
    split at h
    · cases h
      rename_i hclose
      rw [if_pos hclose]
    · split at h
      · cases h
      · rename_i hclose hopen
        rcases Option.map_eq_some_iff.1 h with ⟨⟨d, r⟩, hd, heq⟩
        cases heq
        rw [if_neg hclose, if_neg hopen, ih hd]
        rfl

theorem isTagStart_of_tagBody? (h : tagBody? (c :: s) = some (body, rest)) : isTagStart c = true := by
  rw [tagBody?] at h
  split at h
  · assumption
  · cases h

theorem tagBody?_cons (h : isTagStart c = true) (s : Text) :
    tagBody? (c :: s) = (closeBracket? s).map fun (body, rest) => (c :: body, rest) := by
  rw [tagBody?, if_pos h]

theorem ne_of_isTagStart (h : isTagStart c = true) : c ≠ '[' ∧ c ≠ ']' ∧ c ≠ '\\' := by
  refine ⟨?_, ?_, ?_⟩ <;> rintro rfl <;> exact absurd h (by decide)

theorem not_mem_of_tagBody? (h : tagBody? s = some (body, rest)) : '[' ∉ body := by
  cases s with
  | nil => cases h
  | cons c s =>
    have hstart := isTagStart_of_tagBody? h
    rw [tagBody?_cons hstart] at h
    rcases Option.map_eq_some_iff.1 h with ⟨⟨b, r⟩, hb, heq⟩
    cases heq
    rw [List.mem_cons, not_or]
    exact ⟨fun hc => (ne_of_isTagStart hstart).1 hc.symm, not_mem_of_closeBracket? hb⟩

theorem tagBody?_append_of_some (h : tagBody? a = some (body, rest)) (b : Text) :
    tagBody? (a ++ b) = some (body, rest ++ b) := by
  cases a with
  | nil => cases h
  | cons c a =>
    have hstart := isTagStart_of_tagBody? h
    rw [tagBody?_cons hstart] at h
    rcases Option.map_eq_some_iff.1 h with ⟨⟨d, r⟩, hd, heq⟩
    cases heq
    rw [List.cons_append, tagBody?_cons hstart, closeBracket?_append_of_some hd]
    rfl

/-- Where no right bracket comes first, no tag ends. -/
theorem tagBody?_append (h : closeBracket? b = none) (ha : tagBody? a = none) :
    tagBody? (a ++ b) = none := by
  cases a with
  | nil =>
    cases b with
    | nil => rfl
    | cons c b =>
      cases hstart : isTagStart c with
      | false => rw [List.nil_append, tagBody?, hstart]; rfl
      | true =>
        have hne := ne_of_isTagStart hstart
        rw [closeBracket?, if_neg hne.2.1, if_neg hne.1, Option.map_eq_none_iff] at h
        rw [List.nil_append, tagBody?_cons hstart, h]
        rfl
  | cons c a =>
    cases hstart : isTagStart c with
    | false => rw [List.cons_append, tagBody?, hstart]; rfl
    | true =>
      rw [tagBody?_cons hstart, Option.map_eq_none_iff] at ha
      rw [List.cons_append, tagBody?_cons hstart, closeBracket?_append h, ha]
      rfl

/-! ## Scanning -/

namespace Token

theorem scanAfter_nil (n : Nat) : scanAfter n [] = [.finish n] := by
  rw [scanAfter]

theorem scanAfter_backslash (n : Nat) (s : Text) : scanAfter n ('\\' :: s) = scanAfter (n + 1) s := by
  rw [scanAfter, if_pos rfl]

theorem scanAfter_char (hc : c ≠ '\\') (hopen : c ≠ '[') (n : Nat) (s : Text) :
    scanAfter n (c :: s) = .char n c :: scanAfter 0 s := by
  rw [scanAfter, if_neg hc, if_neg hopen]

theorem scanAfter_bracket (h : tagBody? s = none) (n : Nat) :
    scanAfter n ('[' :: s) = .char n '[' :: scanAfter 0 s := by
  rw [scanAfter, if_neg (by decide), if_pos rfl]
  split
  · rename_i heq
    rw [h] at heq
    cases heq
  · rfl

theorem scanAfter_tag (h : tagBody? s = some (body, more)) (n : Nat) :
    scanAfter n ('[' :: s) = .tag n body :: scanAfter 0 more := by
  rw [scanAfter, if_neg (by decide), if_pos rfl]
  split
  · rename_i heq
    rw [h] at heq
    cases heq
    rfl
  · rename_i heq
    rw [h] at heq
    cases heq

end Token

/-! ## Rendering -/

section Tokens

variable (position : Nat) (stack : List Text) (slashes : Nat) (tokens : List Token)

theorem toOption_render_char (c : Char) :
    (renderTokens naming position stack (.char slashes c :: tokens)).toOption =
      (renderTokens naming (position + (slashes + 1)) stack tokens).toOption.map
        (backslashes (if c = '[' then slashes - 1 else slashes) ++ c :: ·) := by
  rw [renderTokens]
  cases h : renderTokens naming (position + (slashes + 1)) stack tokens <;>
    simp only [Token.width, h] <;> rfl

theorem toOption_render_finish :
    (renderTokens naming position stack (.finish slashes :: tokens)).toOption =
      (renderTokens naming (position + slashes) stack tokens).toOption.map
        (backslashes slashes ++ ·) := by
  rw [renderTokens]
  cases h : renderTokens naming (position + slashes) stack tokens <;>
    simp only [Token.width, h] <;> rfl

theorem toOption_render_guarded (body : Text) (hodd : slashes % 2 = 1) :
    (renderTokens naming position stack (.tag slashes body :: tokens)).toOption =
      (renderTokens naming (position + (slashes + body.length + 2)) stack tokens).toOption.map
        (backslashes (slashes / 2) ++ '[' :: body ++ ']' :: ·) := by
  rw [renderTokens]
  cases h : renderTokens naming (position + (slashes + body.length + 2)) stack tokens <;>
    simp only [Token.width, h, hodd, if_true] <;> rfl

/-- What a tag does to the open names, none if it closes what is not open. -/
def opened? (naming : Naming) (body : Text) (stack : List Text) : Option (List Text) :=
  ((Action.ofBody naming body).apply body 0 stack).toOption

theorem toOption_apply (action : Action) (body : Text) :
    (action.apply body position stack).toOption = (action.apply body 0 stack).toOption := by
  cases action with
  | opens name => rfl
  | closes name =>
    rw [Action.apply, Action.apply]
    split <;> rfl
  | closesLast => cases stack <;> rfl

theorem toOption_render_tag (body : Text) (heven : slashes % 2 = 0) :
    (renderTokens naming position stack (.tag slashes body :: tokens)).toOption =
      (opened? naming body stack).bind fun opened =>
        (renderTokens naming (position + (slashes + body.length + 2)) opened tokens).toOption.map
          (backslashes (slashes / 2) ++ ·) := by
  have hnot : ¬ slashes % 2 = 1 := by omega
  rw [renderTokens, opened?, ← toOption_apply (position + slashes)]
  simp only [Token.width, if_neg hnot]
  cases (Action.ofBody naming body).apply body (position + slashes) stack with
  | error failure => rfl
  | ok opened =>
    show (renderTokens naming _ opened tokens >>= _).toOption =
      Option.map _ (renderTokens naming _ opened tokens).toOption
    cases renderTokens naming (position + (slashes + body.length + 2)) opened tokens <;> rfl

end Tokens

/-- Where a tag stands matters to the complaint about it and to nothing else. -/
theorem toOption_renderTokens (position : Nat) (stack : List Text) (tokens : List Token) :
    (renderTokens naming position stack tokens).toOption =
      (renderTokens naming 0 stack tokens).toOption := by
  induction tokens generalizing position stack with
  | nil => rfl
  | cons token tokens ih =>
    cases token with
    | char slashes c => rw [toOption_render_char, toOption_render_char, ih, ih (0 + _)]
    | finish slashes => rw [toOption_render_finish, toOption_render_finish, ih, ih (0 + _)]
    | tag slashes body =>
      rcases Nat.mod_two_eq_zero_or_one slashes with heven | hodd
      · rw [toOption_render_tag _ _ _ _ _ heven, toOption_render_tag _ _ _ _ _ heven]
        congr 1
        funext opened
        rw [ih, ih (0 + _)]
      · rw [toOption_render_guarded _ _ _ _ _ hodd, toOption_render_guarded _ _ _ _ _ hodd, ih,
          ih (0 + _)]

/-- The text that markup shows behind `n` backslashes, while the names on `stack` are open. -/
def textAfter (naming : Naming) (stack : List Text) (n : Nat) (s : Text) : Option Text :=
  (renderTokens naming 0 stack (Token.scanAfter n s)).toOption

theorem toOption_render (s : Text) :
    (render naming s).toOption = (textAfter naming [] 0 s).map printable := by
  rw [render, textAfter, Token.scan]
  cases renderTokens naming 0 [] (Token.scanAfter 0 s) <;> rfl

theorem render_eq_ok_iff {shown : Text} :
    render naming s = .ok shown ↔
      ∃ text, textAfter naming [] 0 s = some text ∧ printable text = shown := by
  rw [← Option.map_eq_some_iff, ← toOption_render]
  cases render naming s with
  | error failure => exact ⟨nofun, nofun⟩
  | ok text => exact ⟨fun h => congrArg Except.toOption h, fun h => by cases h; rfl⟩

theorem renderOrRaw_of_textAfter {shown : Text} (h : textAfter naming [] 0 s = some shown) :
    renderOrRaw naming s = printable shown := by
  rw [renderOrRaw, render_eq_ok_iff.2 ⟨shown, h, rfl⟩]

theorem renderOrRaw_of_eq_none (h : textAfter naming [] 0 s = none) :
    renderOrRaw naming s = printable s := by
  rw [renderOrRaw]
  cases hrender : render naming s with
  | error failure => rfl
  | ok text =>
    obtain ⟨shown, hshown, -⟩ := render_eq_ok_iff.1 hrender
    rw [h] at hshown
    cases hshown

@[simp] theorem textAfter_nil (stack : List Text) (n : Nat) :
    textAfter naming stack n [] = some (backslashes n) := by
  rw [textAfter, Token.scanAfter_nil, toOption_render_finish]
  simp [renderTokens, Except.toOption]

@[simp] theorem textAfter_backslash (stack : List Text) (n : Nat) (s : Text) :
    textAfter naming stack n ('\\' :: s) = textAfter naming stack (n + 1) s := by
  rw [textAfter, Token.scanAfter_backslash, textAfter]

theorem textAfter_char (hc : c ≠ '\\') (hopen : c ≠ '[') (stack : List Text) (n : Nat) (s : Text) :
    textAfter naming stack n (c :: s) = (textAfter naming stack 0 s).map (backslashes n ++ c :: ·) := by
  rw [textAfter, Token.scanAfter_char hc hopen, toOption_render_char, toOption_renderTokens,
    if_neg hopen, textAfter]

/-- A left bracket that opens no tag uses up a backslash before it. -/
theorem textAfter_bracket (h : tagBody? s = none) (stack : List Text) (n : Nat) :
    textAfter naming stack n ('[' :: s) =
      (textAfter naming stack 0 s).map (backslashes (n - 1) ++ '[' :: ·) := by
  rw [textAfter, Token.scanAfter_bracket h, toOption_render_char, toOption_renderTokens,
    if_pos rfl, textAfter]

/-- A tag that acts is not shown, and half the backslashes before it are. -/
theorem textAfter_tag (h : tagBody? s = some (body, more)) (heven : n % 2 = 0)
    (stack : List Text) :
    textAfter naming stack n ('[' :: s) =
      (opened? naming body stack).bind fun opened =>
        (textAfter naming opened 0 more).map (backslashes (n / 2) ++ ·) := by
  rw [textAfter, Token.scanAfter_tag h, toOption_render_tag _ _ _ _ _ heven]
  congr 1
  funext opened
  rw [toOption_renderTokens, textAfter]

theorem backslashes_succ (n : Nat) : backslashes (n + 1) = backslashes n ++ ['\\'] :=
  List.replicate_succ'

/-- Text without a left bracket is shown as it is, up to a last character that is no backslash. -/
theorem textAfter_plain (ha : '[' ∉ a) (hc : c ≠ '\\') (hopen : c ≠ '[') (stack : List Text)
    (n : Nat) (b : Text) :
    textAfter naming stack n (a ++ c :: b) =
      (textAfter naming stack 0 b).map (backslashes n ++ a ++ c :: ·) := by
  -- by induction on the text: its backslashes wait for the next character that is none
  induction a generalizing n with
  | nil => rw [List.nil_append, textAfter_char hc hopen, List.append_nil]
  | cons d a ih =>
    rw [List.mem_cons, not_or] at ha
    rw [List.cons_append]
    by_cases hd : d = '\\'
    · subst hd
      rw [textAfter_backslash, ih ha.2, backslashes_succ]
      simp
    · rw [textAfter_char hd (Ne.symm ha.1), ih ha.2, Option.map_map]
      congr 1
      funext t
      simp [backslashes]

/-- A tag that is guarded is shown as it is written. -/
theorem textAfter_guarded (h : tagBody? s = some (body, more)) (hodd : n % 2 = 1)
    (stack : List Text) :
    textAfter naming stack n ('[' :: s) =
      (textAfter naming stack 0 s).map (backslashes (n / 2) ++ '[' :: ·) := by
  have hs : s = body ++ ']' :: more := append_of_tagBody? h
  have hinside :
      textAfter naming stack 0 s = (textAfter naming stack 0 more).map (body ++ ']' :: ·) := by
    rw [hs, textAfter_plain (not_mem_of_tagBody? h) (by decide) (by decide)]
    rfl
  rw [hinside, textAfter, Token.scanAfter_tag h, toOption_render_guarded _ _ _ _ _ hodd,
    toOption_renderTokens, Option.map_map]
  congr 1
  funext t
  simp

/-! ## Names -/

/-- A name that a tag holds as it is: it makes a tag, has no blanks around it and no equals sign in it,
and does not begin with a slash. -/
def IsName (name : Text) : Prop :=
  tagBody? (name ++ [']']) = some (name, []) ∧ Text.trim name = name ∧
    name.takeWhile (· != '=') = name ∧ name.head? ≠ some '/'

instance (name : Text) : Decidable (IsName name) := inferInstanceAs (Decidable (_ ∧ _))

section Names

variable {name : Text} (h : IsName name)

include h

theorem tagBody?_name (s : Text) : tagBody? (name ++ ']' :: s) = some (name, s) := by
  have happend := tagBody?_append_of_some h.1 s
  rwa [List.append_assoc] at happend

theorem tagBody?_slash_name (s : Text) :
    tagBody? ('/' :: (name ++ ']' :: s)) = some ('/' :: name, s) := by
  have htag := tagBody?_name h s
  cases name with
  | nil => cases htag
  | cons c name =>
    have hstart := isTagStart_of_tagBody? htag
    have hne := ne_of_isTagStart hstart
    rw [List.cons_append, tagBody?_cons hstart] at htag
    obtain ⟨⟨body, rest⟩, hbody, heq⟩ := Option.map_eq_some_iff.1 htag
    cases heq
    rw [tagBody?_cons (by decide), List.cons_append, closeBracket?, if_neg hne.2.1, if_neg hne.1,
      hbody]
    rfl

theorem opened?_name (naming : Naming) (stack : List Text) :
    opened? naming name stack = some (naming name :: stack) := by
  obtain ⟨-, -, hwhole, hslash⟩ := h
  have hopens : Action.ofBody naming name = .opens (naming name) := by
    rw [Action.ofBody, hwhole]
    split
    · exact absurd rfl hslash
    · rfl
  rw [opened?, hopens]
  rfl

/-- However styles are named, a name closes itself. -/
theorem opened?_slash_name (naming : Naming) (stack : List Text) :
    opened? naming ('/' :: name) (naming name :: stack) = some stack := by
  obtain ⟨htag, htrim, hwhole, -⟩ := h
  have hne : name ≠ [] := by
    rintro rfl
    cases htag
  have hcloses : Action.ofBody naming ('/' :: name) = .closes (naming name) := by
    rw [Action.ofBody, List.takeWhile_cons_of_pos (by decide), hwhole]
    simp only [htrim, List.isEmpty_iff, hne, if_false]
  rw [opened?, hcloses, Action.apply, if_pos (by simp), List.erase_cons_head]
  rfl

end Names

/-! ## Texts without a tag that acts -/

/-- Behind `n` backslashes no tag of the text acts. -/
def Quiet (n : Nat) : Text → Prop
  | [] => True
  | c :: s =>
    if c = '\\' then Quiet (n + 1) s
    else (c = '[' → (tagBody? s).isSome = true → n % 2 = 1) ∧ Quiet 0 s

/-- The text that is then shown, but for the backslashes at its end. -/
def drawn (n : Nat) : Text → Text
  | [] => []
  | c :: s =>
    if c = '\\' then drawn (n + 1) s
    else if c = '[' then
      backslashes (if (tagBody? s).isSome then n / 2 else n - 1) ++ '[' :: drawn 0 s
    else backslashes n ++ c :: drawn 0 s

/-- The number of backslashes at the end of a text behind `n` backslashes. -/
def trailing (n : Nat) : Text → Nat
  | [] => n
  | c :: s => if c = '\\' then trailing (n + 1) s else trailing 0 s

@[simp] theorem quiet_nil (n : Nat) : Quiet n [] := trivial

@[simp] theorem drawn_nil (n : Nat) : drawn n [] = [] := rfl

@[simp] theorem trailing_nil (n : Nat) : trailing n [] = n := rfl

@[simp] theorem quiet_backslash (n : Nat) (s : Text) : Quiet n ('\\' :: s) ↔ Quiet (n + 1) s := by
  rw [Quiet, if_pos rfl]

@[simp] theorem drawn_backslash (n : Nat) (s : Text) : drawn n ('\\' :: s) = drawn (n + 1) s := by
  rw [drawn, if_pos rfl]

@[simp] theorem trailing_backslash (n : Nat) (s : Text) :
    trailing n ('\\' :: s) = trailing (n + 1) s := by
  rw [trailing, if_pos rfl]

theorem trailing_char (hc : c ≠ '\\') (n : Nat) (s : Text) : trailing n (c :: s) = trailing 0 s := by
  rw [trailing, if_neg hc]

/-- If the character before a text begins a tag, an odd number of backslashes guards it. -/
def Guarded (n : Nat) (c : Char) (s : Text) : Prop :=
  c = '[' → (tagBody? s).isSome = true → n % 2 = 1

/-- How many of `n` backslashes are shown before a character: a left bracket uses up one of them, and
half of them if it begins a tag. -/
def slashesShown (n : Nat) (c : Char) (s : Text) : Nat :=
  if c = '[' then if (tagBody? s).isSome then n / 2 else n - 1 else n

theorem guarded_of_ne (hopen : c ≠ '[') (n : Nat) (s : Text) : Guarded n c s :=
  fun h => absurd h hopen

theorem quiet_cons (hc : c ≠ '\\') (n : Nat) (s : Text) :
    Quiet n (c :: s) ↔ Guarded n c s ∧ Quiet 0 s := by
  rw [Quiet, if_neg hc, Guarded]

theorem drawn_cons (hc : c ≠ '\\') (n : Nat) (s : Text) :
    drawn n (c :: s) = backslashes (slashesShown n c s) ++ c :: drawn 0 s := by
  rw [drawn, if_neg hc, slashesShown]
  split
  · rename_i hopen
    rw [hopen]
  · rfl

/-- A character that begins no tag, or a guarded one, is shown. -/
theorem textAfter_cons (hc : c ≠ '\\') (hguarded : Guarded n c s) (stack : List Text) :
    textAfter naming stack n (c :: s) =
      (textAfter naming stack 0 s).map (backslashes (slashesShown n c s) ++ c :: ·) := by
  rw [slashesShown]
  split
  · rename_i hopen
    subst hopen
    cases htag : tagBody? s with
    | none => exact textAfter_bracket htag stack n
    | some found => exact textAfter_guarded htag (hguarded rfl (by rw [htag]; rfl)) stack
  · rename_i hopen
    exact textAfter_char hc hopen stack n s

/-! ## Texts put together -/

/-- A tag begins in the one text and ends in the other. -/
def Straddles (a b : Text) : Prop :=
  ∃ before after, a = before ++ '[' :: after ∧ tagBody? after = none ∧
    (tagBody? (after ++ b)).isSome = true

theorem not_straddles_nil (b : Text) : ¬ Straddles [] b := by
  rintro ⟨before, after, hnil, -, -⟩
  cases before <;> cases hnil

/-- Such a tag begins with the first character or behind it. -/
theorem straddles_cons (c : Char) (a b : Text) :
    Straddles (c :: a) b ↔
      (c = '[' ∧ tagBody? a = none ∧ (tagBody? (a ++ b)).isSome = true) ∨ Straddles a b := by
  constructor
  · rintro ⟨before, after, heq, hnone, hsome⟩
    cases before with
    | nil =>
      obtain ⟨rfl, rfl⟩ := List.cons.inj heq
      exact .inl ⟨rfl, hnone, hsome⟩
    | cons d before =>
      obtain ⟨-, rfl⟩ := List.cons.inj heq
      exact .inr ⟨before, after, rfl, hnone, hsome⟩
  · rintro (⟨rfl, hnone, hsome⟩ | ⟨before, after, rfl, hnone, hsome⟩)
    · exact ⟨[], a, rfl, hnone, hsome⟩
    · exact ⟨c :: before, after, rfl, hnone, hsome⟩

theorem not_straddles_of_closeBracket? (h : closeBracket? b = none) (a : Text) : ¬ Straddles a b := by
  rintro ⟨before, after, rfl, hnone, hsome⟩
  rw [tagBody?_append h hnone] at hsome
  cases hsome

/-- Without such a tag, what stands behind a text neither makes nor breaks the tag at its start. -/
theorem isSome_tagBody?_append (h : ¬ Straddles ('[' :: a) b) :
    (tagBody? (a ++ b)).isSome = (tagBody? a).isSome := by
  cases htag : tagBody? a with
  | some found => rw [tagBody?_append_of_some htag]; rfl
  | none =>
    cases hsome : (tagBody? (a ++ b)).isSome with
    | false => rfl
    | true => exact absurd ((straddles_cons '[' a b).2 (.inl ⟨rfl, htag, hsome⟩)) h

/-- **Two texts put together** show what the first shows and what the second shows, if no tag of the
first acts and none begins in it and ends in the second. -/
theorem textAfter_append (hquiet : Quiet n a) (hseam : ¬ Straddles a b) (stack : List Text) :
    textAfter naming stack n (a ++ b) =
      (textAfter naming stack (trailing n a) b).map (drawn n a ++ ·) := by
  -- by induction on the first text, whatever backslashes stand before it
  induction a generalizing n with
  | nil => simp
  | cons c a ih =>
    have hrest : ¬ Straddles a b := fun h => hseam ((straddles_cons c a b).2 (.inr h))
    rw [List.cons_append]
    by_cases hc : c = '\\'
    · subst hc
      rw [quiet_backslash] at hquiet
      rw [textAfter_backslash, ih hquiet hrest, trailing_backslash, drawn_backslash]
    · obtain ⟨hguarded, hquiet⟩ := (quiet_cons hc n a).1 hquiet
      have hsame : c = '[' → (tagBody? (a ++ b)).isSome = (tagBody? a).isSome := by
        rintro rfl
        exact isSome_tagBody?_append hseam
      have hguarded' : Guarded n c (a ++ b) := fun hopen hsome =>
        hguarded hopen ((hsame hopen).symm.trans hsome)
      have hslashes : slashesShown n c (a ++ b) = slashesShown n c a := by
        rw [slashesShown, slashesShown]
        split
        · rw [hsame ‹c = '['›]
        · rfl
      rw [textAfter_cons hc hguarded', ih hquiet hrest, hslashes, drawn_cons hc, trailing_char hc,
        Option.map_map]
      congr 1
      funext t
      simp

/-- What a text without a tag that acts shows on its own. -/
theorem textAfter_of_quiet (naming : Naming) (h : Quiet n s) (stack : List Text) :
    textAfter naming stack n s = some (drawn n s ++ backslashes (trailing n s)) := by
  have happend : textAfter naming stack n (s ++ []) = _ :=
    textAfter_append h (not_straddles_of_closeBracket? rfl s) stack
  rw [List.append_nil, textAfter_nil] at happend
  exact happend

/-! ## Stretches in a style -/

/-- A stretch of text in a style. -/
def styled (name a : Text) : Text := '[' :: (name ++ ']' :: (a ++ '[' :: '/' :: (name ++ [']'])))

/-- What a stretch in a style shows. Its closing tag acts, unless the backslashes at the end of the
stretch guard it. -/
theorem textAfter_styled {name : Text} (hname : IsName name) (hquiet : Quiet 0 a)
    (naming : Naming) (stack : List Text) (b : Text) :
    textAfter naming stack 0 (styled name a ++ b) =
      if trailing 0 a % 2 = 0 then
        (textAfter naming stack 0 b).map (drawn 0 a ++ backslashes (trailing 0 a / 2) ++ ·)
      else
        (textAfter naming (naming name :: stack) 0 b).map
          (drawn 0 a ++ backslashes (trailing 0 a / 2) ++ '[' :: '/' :: (name ++ [']']) ++ ·) := by
  have hmarkup : styled name a ++ b =
      '[' :: (name ++ ']' :: (a ++ '[' :: '/' :: (name ++ ']' :: b))) := by
    simp [styled]
  -- the left bracket of the closing tag ends every tag that the stretch might begin
  have hseam : ¬ Straddles a ('[' :: '/' :: (name ++ ']' :: b)) :=
    not_straddles_of_closeBracket? rfl a
  rw [hmarkup, textAfter_tag (tagBody?_name hname _) rfl, opened?_name hname, Option.bind_some,
    textAfter_append hquiet hseam, Option.map_map]
  have hcloses := tagBody?_slash_name hname b
  split
  · rename_i heven
    rw [textAfter_tag hcloses heven, opened?_slash_name hname, Option.bind_some, Option.map_map]
    congr 1
    funext t
    simp [backslashes]
  · rename_i hodd
    have hplain : '[' ∉ '/' :: name := not_mem_of_tagBody? hcloses
    rw [textAfter_guarded hcloses (by omega), ← List.cons_append,
      textAfter_plain hplain (by decide) (by decide), Option.map_map, Option.map_map]
    congr 1
    funext t
    simp [backslashes]

/-! ## Literal texts -/

/-- Text that means itself in markup. -/
def Literal (a : Text) : Prop := '[' ∉ a ∧ '\\' ∉ a

instance (a : Text) : Decidable (Literal a) := inferInstanceAs (Decidable (_ ∧ _))

theorem Literal.append (ha : Literal a) (hb : Literal b) : Literal (a ++ b) := by
  refine ⟨fun h => ?_, fun h => ?_⟩
  · exact (List.mem_append.1 h).elim ha.1 hb.1
  · exact (List.mem_append.1 h).elim ha.2 hb.2

theorem Literal.ite {p : Prop} [Decidable p] (ha : Literal a) (hb : Literal b) :
    Literal (if p then a else b) := by
  split
  · exact ha
  · exact hb

theorem textAfter_literal (ha : Literal a) (hne : a ≠ []) (stack : List Text) (n : Nat) (b : Text) :
    textAfter naming stack n (a ++ b) = (textAfter naming stack 0 b).map (backslashes n ++ a ++ ·) := by
  obtain ⟨init, c, rfl⟩ := (List.eq_nil_or_concat a).resolve_left hne
  have hinit : '[' ∉ init := fun h => ha.1 (by simp [h])
  have hc : c ≠ '\\' := fun h => ha.2 (by simp [h])
  have hopen : c ≠ '[' := fun h => ha.1 (by simp [h])
  have hplain : textAfter naming stack n (init ++ c :: b) = _ :=
    textAfter_plain hinit hc hopen stack n b
  simpa using hplain

theorem Literal.quiet (ha : Literal a) : Quiet 0 a ∧ drawn 0 a = a ∧ trailing 0 a = 0 := by
  induction a with
  | nil => exact ⟨quiet_nil 0, rfl, rfl⟩
  | cons c a ih =>
    have hc : c ≠ '\\' := fun h => ha.2 (by simp [h])
    have hopen : c ≠ '[' := fun h => ha.1 (by simp [h])
    obtain ⟨hquiet, hdrawn, htrailing⟩ :=
      ih ⟨fun h => ha.1 (List.mem_cons_of_mem c h), fun h => ha.2 (List.mem_cons_of_mem c h)⟩
    refine ⟨(quiet_cons hc 0 a).2 ⟨guarded_of_ne hopen 0 a, hquiet⟩, ?_,
      (trailing_char hc 0 a).trans htrailing⟩
    rw [drawn_cons hc, slashesShown, if_neg hopen, hdrawn]
    rfl

theorem quiet_literal (ha : Literal a) (b : Text) : Quiet 0 (a ++ b) ↔ Quiet 0 b := by
  induction a with
  | nil => rfl
  | cons c a ih =>
    have hc : c ≠ '\\' := fun h => ha.2 (by simp [h])
    have hopen : c ≠ '[' := fun h => ha.1 (by simp [h])
    rw [List.cons_append, quiet_cons hc, and_iff_right (guarded_of_ne hopen 0 _)]
    exact ih ⟨fun h => ha.1 (List.mem_cons_of_mem c h), fun h => ha.2 (List.mem_cons_of_mem c h)⟩

theorem textAfter_styled_literal {name : Text} (hname : IsName name) (ha : Literal a)
    (naming : Naming) (stack : List Text) (b : Text) :
    textAfter naming stack 0 (styled name a ++ b) = (textAfter naming stack 0 b).map (a ++ ·) := by
  obtain ⟨hquiet, hdrawn, htrailing⟩ := ha.quiet
  rw [textAfter_styled hname hquiet, htrailing, if_pos rfl, hdrawn]
  simp [backslashes]

/-! ## Escaped texts -/

section Backslashes

variable (k n : Nat) (s : Text)

/-- What only counts the backslashes at the start of a text counts a run of them. -/
theorem eq_of_backslashes {α : Type} (f : Nat → Text → α)
    (hf : ∀ k s, f k ('\\' :: s) = f (k + 1) s) : f k (backslashes n ++ s) = f (k + n) s := by
  induction n generalizing k with
  | zero => rfl
  | succ n ih =>
    calc f k (backslashes (n + 1) ++ s)
        = f k ('\\' :: (backslashes n ++ s)) := rfl
      _ = f (k + 1 + n) s := by rw [hf, ih]
      _ = f (k + (n + 1)) s := by rw [Nat.add_assoc, Nat.add_comm 1]

theorem quiet_backslashes : Quiet k (backslashes n ++ s) ↔ Quiet (k + n) s :=
  iff_of_eq (eq_of_backslashes k n s Quiet fun k s => propext (quiet_backslash k s))

theorem drawn_backslashes : drawn k (backslashes n ++ s) = drawn (k + n) s :=
  eq_of_backslashes k n s drawn drawn_backslash

theorem trailing_backslashes : trailing k (backslashes n ++ s) = trailing (k + n) s :=
  eq_of_backslashes k n s trailing trailing_backslash

theorem isSome_closeBracket?_backslashes :
    (closeBracket? (backslashes n ++ s)).isSome = (closeBracket? s).isSome := by
  induction n with
  | zero => rfl
  | succ n ih =>
    rw [backslashes, List.replicate_succ, List.cons_append, closeBracket?, if_neg (by decide),
      if_neg (by decide), Option.isSome_map]
    exact ih

end Backslashes

/-- The escaped text, from a text behind `n` backslashes on. -/
def escapedAfter (n : Nat) (s : Text) : Text := (Token.scanAfter n s).flatMap Token.escaped

theorem escapedAfter_nil (n : Nat) : escapedAfter n [] = backslashes (if n = 1 then 2 else n) := by
  rw [escapedAfter, Token.scanAfter_nil]
  simp [Token.escaped]

@[simp] theorem escapedAfter_backslash (n : Nat) (s : Text) :
    escapedAfter n ('\\' :: s) = escapedAfter (n + 1) s := by
  rw [escapedAfter, Token.scanAfter_backslash, escapedAfter]

theorem escapedAfter_char (hc : c ≠ '\\') (hopen : c ≠ '[') (n : Nat) (s : Text) :
    escapedAfter n (c :: s) = backslashes n ++ c :: escapedAfter 0 s := by
  rw [escapedAfter, Token.scanAfter_char hc hopen]
  simp [Token.escaped, escapedAfter]

theorem escapedAfter_bracket (h : tagBody? s = none) (n : Nat) :
    escapedAfter n ('[' :: s) = backslashes n ++ '[' :: escapedAfter 0 s := by
  rw [escapedAfter, Token.scanAfter_bracket h]
  simp [Token.escaped, escapedAfter]

theorem escapedAfter_plain (ha : '[' ∉ a) (hc : c ≠ '\\') (hopen : c ≠ '[') (n : Nat) (b : Text) :
    escapedAfter n (a ++ c :: b) = backslashes n ++ a ++ c :: escapedAfter 0 b := by
  induction a generalizing n with
  | nil => rw [List.nil_append, escapedAfter_char hc hopen, List.append_nil]
  | cons d a ih =>
    rw [List.mem_cons, not_or] at ha
    rw [List.cons_append]
    by_cases hd : d = '\\'
    · subst hd
      rw [escapedAfter_backslash, ih ha.2, backslashes_succ]
      simp
    · rw [escapedAfter_char hd (Ne.symm ha.1), ih ha.2]
      simp [backslashes]

/-- A tag of a text is guarded by one more backslash than it has twice. -/
theorem escapedAfter_tag (h : tagBody? s = some (body, more)) (n : Nat) :
    escapedAfter n ('[' :: s) = backslashes (2 * n + 1) ++ '[' :: escapedAfter 0 s := by
  have hs : s = body ++ ']' :: more := append_of_tagBody? h
  have hinside : escapedAfter 0 s = body ++ ']' :: escapedAfter 0 more := by
    rw [hs, escapedAfter_plain (not_mem_of_tagBody? h) (by decide) (by decide)]
    rfl
  rw [hinside, escapedAfter, Token.scanAfter_tag h]
  simp [Token.escaped, escapedAfter]

theorem escape_eq (t : Text) : escape t = escapedAfter 0 t := rfl

/-- The number of backslashes in the escaped text for `n` before a character. -/
def slashesWritten (n : Nat) (c : Char) (s : Text) : Nat :=
  if c = '[' ∧ (tagBody? s).isSome = true then 2 * n + 1 else n

theorem escapedAfter_cons (hc : c ≠ '\\') (n : Nat) (s : Text) :
    escapedAfter n (c :: s) = backslashes (slashesWritten n c s) ++ c :: escapedAfter 0 s := by
  rw [slashesWritten]
  by_cases hopen : c = '['
  · subst hopen
    cases htag : tagBody? s with
    | none =>
      rw [if_neg (by simp)]
      exact escapedAfter_bracket htag n
    | some found =>
      rw [if_pos (by simp)]
      exact escapedAfter_tag htag n
  · rw [if_neg fun h => hopen h.1]
    exact escapedAfter_char hc hopen n s

/-- Escaping neither makes nor moves a right bracket. -/
theorem isSome_closeBracket?_escapedAfter (n : Nat) (s : Text) :
    (closeBracket? (escapedAfter n s)).isSome = (closeBracket? s).isSome := by
  induction s generalizing n with
  | nil =>
    rw [escapedAfter_nil, ← List.append_nil (backslashes _), isSome_closeBracket?_backslashes]
  | cons c s ih =>
    by_cases hc : c = '\\'
    · subst hc
      rw [escapedAfter_backslash, ih, closeBracket?, if_neg (by decide), if_neg (by decide),
        Option.isSome_map]
    · rw [escapedAfter_cons hc, isSome_closeBracket?_backslashes, closeBracket?, closeBracket?]
      split
      · rfl
      · split
        · rfl
        · rw [Option.isSome_map, Option.isSome_map, ih]

theorem exists_escapedAfter_succ (n : Nat) (s : Text) :
    ∃ rest, escapedAfter (n + 1) s = '\\' :: rest := by
  induction s generalizing n with
  | nil =>
    rw [escapedAfter_nil]
    split
    · exact ⟨['\\'], rfl⟩
    · exact ⟨backslashes n, rfl⟩
  | cons c s ih =>
    by_cases hc : c = '\\'
    · subst hc
      rw [escapedAfter_backslash]
      exact ih (n + 1)
    · rw [escapedAfter_cons hc, slashesWritten]
      split
      · exact ⟨_, rfl⟩
      · exact ⟨_, rfl⟩

/-- Escaping neither makes nor breaks a tag. -/
theorem isSome_tagBody?_escapedAfter (s : Text) :
    (tagBody? (escapedAfter 0 s)).isSome = (tagBody? s).isSome := by
  cases s with
  | nil =>
    rw [escapedAfter_nil]
    rfl
  | cons c s =>
    by_cases hc : c = '\\'
    · subst hc
      obtain ⟨rest, hrest⟩ := exists_escapedAfter_succ 0 s
      rw [escapedAfter_backslash, hrest]
      rfl
    rw [escapedAfter_cons hc, slashesWritten]
    split
    · -- neither a backslash nor a left bracket starts a tag
      rename_i htag
      rw [htag.1]
      rfl
    · show (tagBody? (c :: escapedAfter 0 s)).isSome = _
      cases hstart : isTagStart c with
      | false => rw [tagBody?, tagBody?, hstart]; rfl
      | true =>
        rw [tagBody?_cons hstart, tagBody?_cons hstart, Option.isSome_map, Option.isSome_map,
          isSome_closeBracket?_escapedAfter]

/-- **No tag of an escaped text acts.** -/
theorem quiet_escapedAfter (n : Nat) (s : Text) : Quiet 0 (escapedAfter n s) := by
  induction s generalizing n with
  | nil =>
    rw [escapedAfter_nil, ← List.append_nil (backslashes _), quiet_backslashes]
    exact quiet_nil _
  | cons c s ih =>
    by_cases hc : c = '\\'
    · subst hc
      rw [escapedAfter_backslash]
      exact ih (n + 1)
    · rw [escapedAfter_cons hc, quiet_backslashes, quiet_cons hc]
      refine ⟨fun hopen hsome => ?_, ih 0⟩
      -- a bracket that begins a tag here began one before, and was given its guard
      rw [isSome_tagBody?_escapedAfter] at hsome
      rw [slashesWritten, if_pos ⟨hopen, hsome⟩]
      omega

theorem quiet_escape (t : Text) : Quiet 0 (escape t) := quiet_escapedAfter 0 t

/-- A text without a backslash is shown as it is, once it is escaped. -/
theorem drawn_escape_of_not_mem (h : '\\' ∉ s) : drawn 0 (escape s) = s ∧ trailing 0 (escape s) = 0 := by
  rw [escape_eq]
  induction s with
  | nil =>
    rw [escapedAfter_nil]
    exact ⟨rfl, rfl⟩
  | cons c s ih =>
    rw [List.mem_cons, not_or] at h
    have hc := Ne.symm h.1
    obtain ⟨hdrawn, htrailing⟩ := ih h.2
    -- the backslash that guards a tag is used up by the tag
    have hslashes : slashesShown (0 + slashesWritten 0 c s) c (escapedAfter 0 s) = 0 := by
      rw [slashesShown, slashesWritten, isSome_tagBody?_escapedAfter]
      by_cases hopen : c = '['
      · cases hsome : (tagBody? s).isSome <;> simp [hopen]
      · simp [hopen]
    rw [escapedAfter_cons hc, drawn_backslashes, drawn_cons hc, hslashes, hdrawn,
      trailing_backslashes, trailing_char hc]
    exact ⟨rfl, htrailing⟩

end Console
end SearchClient
