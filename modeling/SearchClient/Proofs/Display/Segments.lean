import SearchClient.Display.Highlight

/-!
# What highlighting changes

The segments of a text put together are the text (`Highlight.flatMap_text_segments`), so a
highlighted text is the text with markers around some stretches of it, and nothing else.
-/

namespace SearchClient
namespace Highlight

/-! ## Cutting a text -/

section Equations

variable {patterns : List Text} {c : Char} {rest : Text}

theorem segments_of_blank (hblank : shadowChar c = ' ') :
    segments patterns (c :: rest) = .plain [c] :: segments patterns rest := by
  rw [segments, if_pos hblank]

theorem segments_of_hit (hword : shadowChar c ≠ ' ') {n : Nat}
    (hhit : hitLength? patterns (c :: rest) = some n) :
    segments patterns (c :: rest) =
      .hit (c :: rest.take (n - 1)) :: segments patterns (rest.drop (n - 1)) := by
  rw [segments, if_neg hword, hhit]

theorem segments_of_miss (hword : shadowChar c ≠ ' ')
    (hmiss : hitLength? patterns (c :: rest) = none) :
    segments patterns (c :: rest) =
      .plain (c :: rest.takeWhile (shadowChar · != ' ')) ::
        segments patterns (rest.dropWhile (shadowChar · != ' ')) := by
  rw [segments, if_neg hword, hmiss]

end Equations

/-! ## Segments put together -/

/-- A segment as it stands in the text. -/
def Segment.text : Segment → Text
  | plain s => s
  | hit s => s

/-- A text with markers around some of its stretches. -/
def Marked (markup : Markup) (s marked : Text) : Prop :=
  ∃ parts : List Segment, parts.flatMap Segment.text = s ∧
    parts.flatMap (Segment.render markup) = marked

theorem flatMap_text_segments (patterns : List Text) (s : Text) :
    (segments patterns s).flatMap Segment.text = s := by
  -- by induction along the scan: each case cuts a stretch off the text and goes on behind it
  fun_induction segments patterns s with
  | case1 => rfl
  | case2 c rest hblank ih =>
    rw [List.flatMap_cons, ih]
    rfl
  | case3 c rest hword n hn ih =>
    rw [List.flatMap_cons, ih]
    exact congrArg (c :: ·) (List.take_append_drop (n - 1) rest)
  | case4 c rest hword hnone ih =>
    rw [List.flatMap_cons, ih]
    exact congrArg (c :: ·) List.takeWhile_append_dropWhile

/-- **Highlighting adds markers and nothing else.** -/
theorem marked_highlight (markup : Markup) (terms : List Text) (s : Text) :
    Marked markup s (highlight markup terms s) :=
  ⟨segments (patterns terms) s, flatMap_text_segments _ s, rfl⟩

theorem Marked.eq_of_no_markers {markup : Markup} {s marked : Text} (h : Marked markup s marked)
    (hopening : markup.opening = []) (hclosing : markup.closing = []) : marked = s := by
  rcases h with ⟨parts, rfl, rfl⟩
  have hrender : Segment.render markup = Segment.text := by
    funext part
    cases part with
    | plain s => rfl
    | hit s => simp [Segment.render, Segment.text, hopening, hclosing]
  rw [hrender]

end Highlight
end SearchClient
