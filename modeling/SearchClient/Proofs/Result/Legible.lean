import SearchClient.Proofs.Display.Escaping
import SearchClient.Proofs.Mime.Decoding
import SearchClient.Proofs.Number.Rounding
import SearchClient.Result.Page

/-!
# Which replies make a page

A reply is turned into a page field by field, and two of the steps have no result for some data.
The label of an encoded word may not hold a NUL, and the quotient behind the previous link may not
leave the range of the format. Nothing else is refused, so these two tell exactly which lines give
a record (`Record.exists_ofLine_iff`), which rows have a window (`PageWindow.exists_forHits_iff`)
and which replies a page (`ResultPage.exists_ofReply_iff`).
-/

namespace SearchClient

/-! ## Records -/

namespace Record

variable {markup : Markup} {terms : List Text} {line : Text}

/-- The fields of a line that are decoded. -/
def decodedTags : List Text := ["author".toList, "title".toList, "snippet".toList]

/-- No encoded word in the displayed fields of a line has a label with a NUL. -/
def Legible (markup : Markup) (line : Text) : Prop :=
  ∀ tag ∈ decodedTags, EncodedWord.Legible (markup.escaping.apply (field tag line))

theorem exists_clean_iff (markup : Markup) (raw : Text) :
    (∃ t, clean markup raw = .ok t) ↔ EncodedWord.Legible (markup.escaping.apply raw) :=
  EncodedWord.exists_decode_iff _ _

theorem exists_authorOf_iff (markup : Markup) (author : Text) :
    (∃ t, authorOf markup author = .ok t) ↔
      EncodedWord.Legible (markup.escaping.apply author) := by
  cases author with
  | nil =>
    rw [Escaping.apply_nil]
    exact ⟨fun _ => EncodedWord.legible_nil, fun _ => ⟨[], rfl⟩⟩
  | cons c s => exact exists_clean_iff markup (c :: s)

theorem exists_titleOf_iff (markup : Markup) (title filename : Text) :
    (∃ t, titleOf markup title filename = .ok t) ↔
      EncodedWord.Legible (markup.escaping.apply title) := by
  cases title with
  | nil =>
    rw [Escaping.apply_nil]
    exact ⟨fun _ => EncodedWord.legible_nil, fun _ => ⟨_, rfl⟩⟩
  | cons c s => exact exists_clean_iff markup (c :: s)

/-- The record of a line whose displayed fields are known. -/
def assemble (markup : Markup) (terms : List Text) (line author title snippet : Text) : Record where
  filename := field "filename".toList line
  author := author
  score := scoreOf (field "score".toList line)
  title := highlight markup terms (truncateTitle title)
  dstart := field "dstart".toList line
  dend := field "dend".toList line
  mimeType := field "type".toList line
  page := field "page".toList line
  date := field "date".toList line
  filesize := field "filesize".toList line
  snippet := highlight markup terms snippet

theorem ofLine_eq_ok_iff {r : Record} :
    ofLine markup terms line = .ok r ↔
      ∃ author title snippet,
        authorOf markup (field "author".toList line) = .ok author ∧
          titleOf markup (field "title".toList line) (field "filename".toList line) = .ok title ∧
            clean markup (field "snippet".toList line) = .ok snippet ∧
              r = assemble markup terms line author title snippet := by
  simp only [ofLine, Outcome.bind_eq_ok_iff]
  constructor
  · rintro ⟨author, hauthor, title, htitle, snippet, hsnippet, heq⟩
    cases heq
    exact ⟨author, title, snippet, hauthor, htitle, hsnippet, rfl⟩
  · rintro ⟨author, title, snippet, hauthor, htitle, hsnippet, rfl⟩
    exact ⟨author, hauthor, title, htitle, snippet, hsnippet, rfl⟩

/-- **A line has a record exactly if its displayed fields can be read.** -/
theorem exists_ofLine_iff : (∃ r, ofLine markup terms line = .ok r) ↔ Legible markup line := by
  simp only [Legible, decodedTags, List.forall_mem_cons, List.not_mem_nil, false_imp_iff,
    implies_true, and_true, ofLine_eq_ok_iff]
  rw [← exists_authorOf_iff, ← exists_titleOf_iff markup _ (field "filename".toList line),
    ← exists_clean_iff]
  constructor
  · rintro ⟨_, author, title, snippet, hauthor, htitle, hsnippet, -⟩
    exact ⟨⟨author, hauthor⟩, ⟨title, htitle⟩, ⟨snippet, hsnippet⟩⟩
  · rintro ⟨⟨author, hauthor⟩, ⟨title, htitle⟩, ⟨snippet, hsnippet⟩⟩
    exact ⟨_, author, title, snippet, hauthor, htitle, hsnippet, rfl⟩

/-! ## Lines without a NUL -/

theorem mem_of_mem_field {tag : Text} {c : Char} (h : c ∈ field tag line) : c ∈ line := by
  unfold field at h
  split at h
  · cases h
  · rename_i before rest hopen
    split at h
    · cases h
    · rename_i value after hclose
      have hline := Text.append_of_cut? hopen
      have hrest := Text.append_of_cut? hclose
      have hvalue : c ∈ value := Text.mem_of_mem_stripBy h
      rw [hline, hrest]
      simp [hvalue]

/-- **A line without a NUL has a record.** -/
theorem legible_of_no_nul (h : '\x00' ∉ line) (markup : Markup) : Legible markup line := by
  intro tag _ w hw hnul
  -- a label stands in its word, the word in the escaped field, and the field in the line
  have hsource := EncodedWord.source_infix_of_mem_pieces hw
  have hlabel : '\x00' ∈ w.source := by simp [EncodedWord.Word.source, hnul]
  exact h (mem_of_mem_field (Escaping.nul_of_mem_apply (hsource.subset hlabel)))

/-! ## Lines without tags -/

theorem field_of_no_tag (h : '<' ∉ line) (tag : Text) : field tag line = [] := by
  cases hcut : Text.cut? ('<' :: tag ++ ['>']) line with
  | none =>
    rw [field, hcut]
  | some parts =>
    have hline := Text.append_of_cut? hcut
    exact absurd (by simp [hline]) h

/-- The record of a line that tells nothing. -/
def blank : Record where
  filename := []
  author := []
  score := .zero
  title := []
  dstart := []
  dend := []
  mimeType := []
  page := []
  date := []
  filesize := []
  snippet := []

theorem highlight_nil (markup : Markup) (terms : List Text) : highlight markup terms [] = [] := by
  rw [highlight, Highlight.segments]
  rfl

theorem ofLine_of_no_tag (h : '<' ∉ line) : ofLine markup terms line = .ok blank := by
  have hclean : clean markup [] = .ok [] := by
    rw [clean, Escaping.apply_nil, EncodedWord.decode_eq_ok_iff, EncodedWord.pieces_nil]
    exact ⟨[[]], rfl, rfl⟩
  have htitle : titleOf markup [] [] = .ok [] := by
    have hname : markup.escaping.apply (Text.afterLast '/' []) = [] := Escaping.apply_nil _
    rw [titleOf, hname]
    rfl
  rw [ofLine_eq_ok_iff]
  simp only [field_of_no_tag h]
  refine ⟨[], [], [], rfl, htitle, hclean, ?_⟩
  simp only [assemble, field_of_no_tag h]
  rw [blank, truncateTitle, if_pos (by decide), highlight_nil]
  congr 1

end Record

/-! ## Windows -/

namespace PageWindow

variable {total start : Int}

/-- The first row whose previous link has no start: the quotient behind it is too large. -/
def reach : Nat := 10 * Binary64.overflow + 9

theorem roundedQuotient_eq_ok_iff {x y n : Int} :
    roundedQuotient x y = .ok n ↔ (Binary64.ofRatio x y).truncate? = some n := by
  unfold roundedQuotient
  generalize (Binary64.ofRatio x y).truncate? = whole
  cases whole with
  | none => exact ⟨nofun, nofun⟩
  | some m => simp [wholePart]

theorem exists_roundedQuotient_iff {x y : Int} (hy : y ≠ 0) :
    (∃ n, roundedQuotient x y = .ok n) ↔ x.natAbs < y.natAbs * Binary64.overflow := by
  -- `overflow` has a thousand bits and is generalised before anything computes with it
  have hover := Binary64.truncate?_ofRatio_eq_none_iff (x := x) hy
  generalize Binary64.overflow = limit at hover ⊢
  simp only [roundedQuotient_eq_ok_iff]
  constructor
  · rintro ⟨n, hn⟩
    by_contra hlarge
    have hnone := hover.2 (Nat.not_lt.1 hlarge)
    rw [hn] at hnone
    cases hnone
  · intro hsmall
    have hsome : (Binary64.ofRatio x y).truncate? ≠ none := by
      intro hnone
      exact absurd hsmall (Nat.not_lt.2 (hover.1 hnone))
    exact Option.ne_none_iff_exists'.1 hsome

/-- The start that a previous link leads to is found up to `reach`. -/
theorem exists_previousOf_iff :
    (∃ p, previousOf (Int.fdiv start pageSize + 1) start pageSize = .ok p) ↔ start < reach := by
  have hfloor : Int.fdiv start 10 = start / 10 := Int.fdiv_eq_ediv_of_nonneg start (by decide)
  have hquotient := exists_roundedQuotient_iff (x := start - 9) (y := 10) (by decide)
  have hten : (10 : Int).natAbs = 10 := rfl
  have hreach : (reach : Int) = 10 * (Binary64.overflow : Nat) + 9 := by
    rw [reach]
    omega
  have hpos : 0 < Binary64.overflow := Nat.zero_lt_of_lt Binary64.two_pow_53_lt_overflow
  rw [hten] at hquotient
  generalize (reach : Int) = bound at hreach ⊢
  generalize Binary64.overflow = limit at hquotient hreach hpos
  rw [previousOf, pageSize, hfloor]
  split
  · have hiff : (start - 9).natAbs < 10 * limit ↔ start < bound := by omega
    rw [← hiff, ← hquotient]
    simp only [Outcome.bind_eq_ok_iff]
    constructor
    · rintro ⟨_, n, hn, -⟩
      exact ⟨n, hn⟩
    · rintro ⟨n, hn⟩
      exact ⟨_, n, hn, rfl⟩
  · constructor
    · intro _
      omega
    · intro _
      exact ⟨none, rfl⟩

/-- The window of the usual size around a row whose previous link is known. -/
def around (total start : Int) (previous : Option Int) : PageWindow :=
  let current := Int.fdiv start pageSize + 1
  let maxPage := -Int.fdiv (-total) pageSize
  let first := max 1 (current - defaultLookback)
  { current, first, maxPage
    last := min maxPage (first + defaultSpan - 1)
    previousStart := previous
    nextStart := if current < maxPage then some (current * pageSize) else none
    size := pageSize }

theorem forHits_eq_ok_iff {w : PageWindow} :
    forHits total start = .ok w ↔
      ∃ previous, previousOf (Int.fdiv start pageSize + 1) start pageSize = .ok previous ∧
        w = around total start previous := by
  have hsize : ¬ pageSize = 0 := by decide
  simp only [forHits, compute, hsize, if_false, Outcome.bind_eq_ok_iff]
  constructor
  · rintro ⟨previous, hprevious, heq⟩
    cases heq
    exact ⟨previous, hprevious, rfl⟩
  · rintro ⟨previous, hprevious, rfl⟩
    exact ⟨previous, hprevious, rfl⟩

/-- **A row has a window exactly if the quotient behind its previous link is within the format.** -/
theorem exists_forHits_iff : (∃ w, forHits total start = .ok w) ↔ start < reach := by
  rw [← exists_previousOf_iff]
  simp only [forHits_eq_ok_iff]
  constructor
  · rintro ⟨_, previous, hprevious, -⟩
    exact ⟨previous, hprevious⟩
  · rintro ⟨previous, hprevious⟩
    exact ⟨_, previous, hprevious, rfl⟩

end PageWindow

/-! ## Pages -/

namespace ResultPage

variable {markup : Markup} {request : Request} {terms : List Text} {frame : Frame}

/-- The lines of a reply that stand in the rows asked for. -/
def rows (request : Request) (body : List Text) : List Text :=
  slice request.start (min request.stop (countHits body)) body

/-- The window of a reply: only more than one page has one. -/
def windowOf (total : Nat) (start : Int) : Except Failure (Option PageWindow) :=
  if pageSize < total then (PageWindow.forHits total start).map some else pure none

theorem exists_windowOf_iff {total : Nat} {start : Int} :
    (∃ w, windowOf total start = .ok w) ↔ (pageSize < total → start < PageWindow.reach) := by
  by_cases hmany : pageSize < total
  · have hforHits : (∃ w, PageWindow.forHits total start = .ok w) ↔ start < PageWindow.reach :=
      PageWindow.exists_forHits_iff
    rw [windowOf, if_pos hmany, forall_prop_of_true hmany, ← hforHits]
    cases PageWindow.forHits total start with
    | error failure => exact ⟨nofun, nofun⟩
    | ok w => exact ⟨fun _ => ⟨w, rfl⟩, fun _ => ⟨some w, rfl⟩⟩
  · rw [windowOf, if_neg hmany]
    exact ⟨fun _ h => absurd h hmany, fun _ => ⟨none, rfl⟩⟩

theorem ofReply_eq_ok_iff {page : ResultPage} :
    ofReply markup request terms frame = .ok page ↔
      ∃ records window,
        (rows request frame.body).mapM (Record.ofLine markup terms) = .ok records ∧
          windowOf (countHits frame.body) request.start = .ok window ∧
            page = { blank request terms with
              records, window
              stop := min request.stop (countHits frame.body)
              totalHits := countHits frame.body
              elapsed := elapsedOf frame.status
              status := frame.status } := by
  -- the records are read before the window is made, so a record that fails comes first
  have hbind : ofReply markup request terms frame =
      (rows request frame.body).mapM (Record.ofLine markup terms) >>= fun records =>
        windowOf (countHits frame.body) request.start >>= fun window =>
          .ok { blank request terms with
            records, window
            stop := min request.stop (countHits frame.body)
            totalHits := countHits frame.body
            elapsed := elapsedOf frame.status
            status := frame.status } := by
    rw [ofReply, windowOf]
    split <;> rfl
  rw [hbind]
  simp only [Outcome.bind_eq_ok_iff]
  constructor
  · rintro ⟨records, hrecords, window, hwindow, heq⟩
    cases heq
    exact ⟨records, window, hrecords, hwindow, rfl⟩
  · rintro ⟨records, window, hrecords, hwindow, rfl⟩
    exact ⟨records, hrecords, window, hwindow, rfl⟩

/-- **A reply makes a page exactly if the rows asked for can be read and have a window.** -/
theorem exists_ofReply_iff :
    (∃ page, ofReply markup request terms frame = .ok page) ↔
      (∀ line ∈ rows request frame.body, Record.Legible markup line) ∧
        (pageSize < countHits frame.body → request.start < PageWindow.reach) := by
  have hrecords : (∃ rs, (rows request frame.body).mapM (Record.ofLine markup terms) = .ok rs) ↔
      ∀ line ∈ rows request frame.body, ∃ r, Record.ofLine markup terms line = .ok r :=
    Outcome.exists_mapM_iff
  simp only [Record.exists_ofLine_iff] at hrecords
  rw [← hrecords, ← exists_windowOf_iff]
  simp only [ofReply_eq_ok_iff]
  constructor
  · rintro ⟨_, records, window, hmap, hwindow, -⟩
    exact ⟨⟨records, hmap⟩, ⟨window, hwindow⟩⟩
  · rintro ⟨⟨records, hmap⟩, ⟨window, hwindow⟩⟩
    exact ⟨_, records, window, hmap, hwindow, rfl⟩

end ResultPage
end SearchClient
