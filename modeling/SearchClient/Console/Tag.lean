import SearchClient.Text.Blank
import SearchClient.Text.LowerCase

/-!
# Console markup: tags

Console markup is text with style tags in square brackets, such as `[bold]` and `[/bold]`. A tag
is a left bracket, one of `a` to `z`, `#`, `/` and `@`, and what follows up to a right bracket
without another left one. Backslashes right before a tag guard it.

1. `Token.scan` cuts markup into tags and characters, each with the backslashes before it;
2. `escape` writes a text as markup that shows the text.
-/

namespace SearchClient
namespace Console

/-- Whether a tag may start with this character. -/
def isTagStart (c : Char) : Bool := ('a' ≤ c && c ≤ 'z') || c == '#' || c == '/' || c == '@'

/-- The text up to the next right bracket and the text after it, unless a left bracket or the end
comes first. -/
def closeBracket? : Text → Option (Text × Text)
  | [] => none
  | c :: s =>
    if c = ']' then some ([], s)
    else if c = '[' then none
    else (closeBracket? s).map fun (body, rest) => (c :: body, rest)

/-- The inside of the tag whose left bracket stands right before this text, and the text after
its right bracket. -/
def tagBody? : Text → Option (Text × Text)
  | [] => none
  | c :: s =>
    if isTagStart c then (closeBracket? s).map fun (body, rest) => (c :: body, rest) else none

theorem length_of_closeBracket? {s body rest : Text} (h : closeBracket? s = some (body, rest)) :
    rest.length < s.length := by
  induction s generalizing body with
  | nil => simp [closeBracket?] at h
  | cons c s ih =>
    simp only [closeBracket?] at h
    split at h
    · simp only [Option.some.injEq, Prod.mk.injEq] at h
      rcases h with ⟨-, rfl⟩
      simp
    · split at h
      · simp at h
      · simp only [Option.map_eq_some_iff] at h
        rcases h with ⟨⟨b, r⟩, hb, heq⟩
        simp only [Prod.mk.injEq] at heq
        rcases heq with ⟨-, rfl⟩
        have := ih hb
        simp only [List.length_cons]
        omega

theorem length_of_tagBody? {s body rest : Text} (h : tagBody? s = some (body, rest)) :
    rest.length < s.length := by
  cases s with
  | nil => simp [tagBody?] at h
  | cons c s =>
    simp only [tagBody?] at h
    split at h
    · simp only [Option.map_eq_some_iff] at h
      rcases h with ⟨⟨b, r⟩, hb, heq⟩
      simp only [Prod.mk.injEq] at heq
      rcases heq with ⟨-, rfl⟩
      have := length_of_closeBracket? hb
      simp only [List.length_cons]
      omega
    · simp at h

/-! ## Tokens -/

/-- A part of console markup, with the number of backslashes right before it. -/
inductive Token where
  /-- A character that opens no tag and is no backslash. -/
  | char (slashes : Nat) (c : Char)
  /-- A tag, by what stands between its brackets. -/
  | tag (slashes : Nat) (body : Text)
  /-- The end of the markup. -/
  | finish (slashes : Nat)
  deriving DecidableEq

def backslashes (n : Nat) : Text := List.replicate n '\\'

/-- The tokens of markup after `slashes` backslashes. -/
def Token.scanAfter (slashes : Nat) (s : Text) : List Token :=
  match s with
  | [] => [.finish slashes]
  | c :: rest =>
    if c = '\\' then scanAfter (slashes + 1) rest
    else if c = '[' then
      match h : tagBody? rest with
      | some (body, more) =>
        have : more.length < rest.length := length_of_tagBody? h
        .tag slashes body :: scanAfter 0 more
      | none => .char slashes c :: scanAfter 0 rest
    else .char slashes c :: scanAfter 0 rest
termination_by s.length
decreasing_by all_goals simp only [List.length_cons]; omega

def Token.scan (s : Text) : List Token := scanAfter 0 s

/-! ## Escaping -/

/-- A token of a text as markup that shows it: the backslashes before a tag are doubled and one
more guards the tag, and a single last backslash is doubled. -/
def Token.escaped : Token → Text
  | char slashes c => backslashes slashes ++ [c]
  | tag slashes body => backslashes (2 * slashes + 1) ++ '[' :: body ++ [']']
  | finish slashes => backslashes (if slashes = 1 then 2 else slashes)

/-- A text as markup that shows the text. -/
def escape (s : Text) : Text := (Token.scan s).flatMap Token.escaped

end Console
end SearchClient
