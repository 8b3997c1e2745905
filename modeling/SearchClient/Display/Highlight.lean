import SearchClient.Display.Markup

/-!
# Highlighting

Terms are highlighted where they occur as whole tokens, whatever their letter case. Only the
letters `a` to `z` and the digits are word characters; all others count as blanks, so a phrase
also matches across other separators.

1. `shadow` is the text in which occurrences are looked for, and `patterns` are the terms as
   they are looked for;
2. `segments` cuts a text into hits and the plain text between them: at each token start the
   first pattern that stands there up to a word boundary is a hit, and otherwise the token is
   passed over;
3. `highlight` wraps the hits.
-/

namespace SearchClient
namespace Highlight

/-! ## The shadow of a text -/

def isWordChar (c : Char) : Bool := ('a' ≤ c && c ≤ 'z') || ('0' ≤ c && c ≤ '9')

/-- The lower case of a character that belongs to a word, a blank for any other. -/
def shadowChar (c : Char) : Char :=
  match Text.lowerChar c with
  | [l] => if isWordChar l then l else ' '
  | _ => ' '

/-- A text with its word characters in lower case, every other one blank, and a last blank. -/
def shadow (s : Text) : Text := s.map shadowChar ++ [' ']

/-- The terms as they are looked for: in lower case, and none that is empty. -/
def patterns (terms : List Text) : List Text :=
  (terms.filter fun term => !term.isEmpty).map Text.lower

/-- Whether a token ends before this text. -/
def atBoundary : Text → Bool
  | [] => true
  | c :: _ => shadowChar c == ' '

/-- Whether a pattern stands at the start of a text, up to a word boundary. -/
def standsAt : Text → Text → Bool
  | [], s => atBoundary s
  | _ :: _, [] => false
  | p :: pattern, c :: s => p == shadowChar c && standsAt pattern s

/-- The length of the first pattern that stands at the start of a text. -/
def hitLength? (patterns : List Text) (s : Text) : Option Nat :=
  (patterns.find? fun pattern => standsAt pattern s).map List.length

/-! ## Segments -/

inductive Segment where
  | plain (text : Text)
  | hit (text : Text)
  deriving DecidableEq

/-- The segments of a text, from a token start or a blank on. -/
def segments (patterns : List Text) (s : Text) : List Segment :=
  match s with
  | [] => []
  | c :: rest =>
    if shadowChar c = ' ' then .plain [c] :: segments patterns rest
    else
      match hitLength? patterns (c :: rest) with
      | some n => .hit (c :: rest.take (n - 1)) :: segments patterns (rest.drop (n - 1))
      | none =>
        .plain (c :: rest.takeWhile (shadowChar · != ' ')) ::
          segments patterns (rest.dropWhile (shadowChar · != ' '))
termination_by s.length
decreasing_by
  · simp
  · simp only [List.length_drop, List.length_cons]
    omega
  · have := (List.dropWhile_suffix (l := rest) (shadowChar · != ' ')).length_le
    simp only [List.length_cons]
    omega

def Segment.render (markup : Markup) : Segment → Text
  | plain s => s
  | hit s => markup.opening ++ s ++ markup.closing

end Highlight

/-- A text with the occurrences of the terms wrapped. -/
def highlight (markup : Markup) (terms : List Text) (s : Text) : Text :=
  (Highlight.segments (Highlight.patterns terms) s).flatMap (Highlight.Segment.render markup)

end SearchClient
