import SearchClient.Proofs.Number.Numeral
import SearchClient.Proofs.Search.Slices
import SearchClient.Proofs.Text.Marks

/-!
# The line above the hits

Above the hits of a page stands which rows are shown and of how many. `ResultPage.rowsTold?` reads the
three numbers from such a line, knowing nothing of the page, and `ResultPage.rowsTold?_resultsText` says
that they are the numbers that were written.

The last row is cut to the hits and the first one is not. So the line is true of the page exactly if the
request starts within the hits (`Client.told_rows`); a page that starts behind them has no rows, and its
line tells a first row behind the last one (`Client.told_rows_behind_hits`).
-/

namespace SearchClient

namespace ResultPage

variable {total first last : Int} {elapsed : Binary64} {line rest : Text}

/-! ## Reading the line -/

/-- The first row, the last row and the number of hits that a line above the hits tells. -/
def rowsTold? (line : Text) : Option (Int × Int × Int) := do
  let rest ← Text.after? "Results ".toList line
  let (first, rest) ← Text.cut? " - ".toList rest
  let (last, rest) ← Text.cut? " of ".toList rest
  let total := rest.takeWhile Char.isDigit
  return (← Numeral.read? first, ← Numeral.read? last, ← Numeral.read? total)

/-- A numeral ends before a mark that begins with a space. -/
theorem cut?_write (n : Int) (mark rest : Text) :
    Text.cut? (' ' :: mark) (Numeral.write n ++ (' ' :: mark ++ rest)) =
      some (Numeral.write n, rest) := by
  have hpasses : Text.Passes (' ' :: mark) (Numeral.write n) (' ' :: mark ++ rest) :=
    Text.passes_of_not_mem (Numeral.not_mem_write (by decide) (by decide))
  rw [Text.cut?_append hpasses, Text.cut?_self (List.cons_ne_nil _ _)]
  show some (Numeral.write n ++ [], rest) = _
  rw [List.append_nil]

/-- A number of hits ends before the plus sign or the space that follows. -/
theorem takeWhile_write (htotal : 0 ≤ total) (many : Prop) [Decidable many] (rest : Text) :
    (Numeral.write total ++ ((if many then ['+'] else []) ++ ' ' :: rest)).takeWhile Char.isDigit =
      Numeral.write total := by
  have hdigits : ∀ c ∈ Numeral.write total, c.isDigit = true := by
    intro c hc
    rw [Numeral.write, if_neg (Int.not_lt.2 htotal)] at hc
    exact Numeral.isDigit_of_mem_writeNat hc
  have hstop : ((if many then ['+'] else []) ++ ' ' :: rest).takeWhile Char.isDigit = [] := by
    split <;> rfl
  rw [List.takeWhile_append_of_pos hdigits, hstop, List.append_nil]

/-- The numbers read from a line above hits are those that were written. -/
theorem rowsTold?_resultsText (hhits : 0 < total)
    (hwritable : [first + 1, last, total].all Numeral.isWritable = true) :
    rowsTold? (resultsText total first last elapsed) = some (first + 1, last, total) := by
  have hsome : ¬ total = 0 := by omega
  obtain ⟨tail, hline⟩ : ∃ tail, resultsText total first last elapsed =
      "Results ".toList ++ (Numeral.write (first + 1) ++ (" - ".toList ++ (Numeral.write last ++
        (" of ".toList ++ (Numeral.write total ++
          ((if manyHits ≤ total then ['+'] else []) ++ ' ' :: tail)))))) := by
    refine ⟨'(' :: (elapsed.writeFixed 3 ++ " seconds".toList ++ [')']), ?_⟩
    simp only [resultsText, if_neg hsome, List.append_assoc]
    rfl
  -- neither separator can be found within a number
  have hfirst : ∀ rest, Text.cut? " - ".toList (Numeral.write (first + 1) ++ (" - ".toList ++ rest)) =
      some (Numeral.write (first + 1), rest) := cut?_write _ ['-', ' ']
  have hlast : ∀ rest, Text.cut? " of ".toList (Numeral.write last ++ (" of ".toList ++ rest)) =
      some (Numeral.write last, rest) := cut?_write _ ['o', 'f', ' ']
  simp only [List.all_cons, List.all_nil, Bool.and_true, Bool.and_eq_true] at hwritable
  simp only [rowsTold?, hline, Text.after?_append, hfirst, hlast, takeWhile_write hhits.le,
    Option.bind_eq_bind, Option.bind_some, Numeral.read?_write hwritable.1,
    Numeral.read?_write hwritable.2.1, Numeral.read?_write hwritable.2.2]
  rfl

/-! ## The rows of a page -/

variable {markup : Markup} {terms : List Text} {request : Request} {frame : Frame} {page : ResultPage}

/-- A page made of a reply begins with the first row asked for, ends with the last one or the last hit,
and has as many records as there are rows between. -/
theorem rows_of_ofReply (h : ofReply markup request terms frame = .ok page)
    (hbody : ∀ line ∈ frame.body, line.head? ≠ some '@') (hstart : 0 ≤ request.start)
    (hstop : 0 ≤ request.stop) :
    page.start = request.start ∧ page.stop = min request.stop page.totalHits ∧
      (page.records.length : Int) = max 0 (page.stop - request.start) := by
  obtain ⟨records, window, hrecords, -, rfl⟩ := ofReply_eq_ok_iff.1 h
  have hhits := countHits_eq hbody
  refine ⟨rfl, rfl, ?_⟩
  dsimp only
  rw [hhits]
  exact length_records hhits hstart hstop hrecords

/-- Hits make the line one of three numbers, refused if one of them is too long. -/
theorem summaryLine_of_hits (hhits : 0 < page.totalHits) :
    page.summaryLine =
      if [page.start + 1, page.stop, (page.totalHits : Int)].all Numeral.isWritable then
        .ok (resultsText page.totalHits page.start page.stop page.elapsed)
      else .error .numeralTooLong := by
  have hsome : ¬ (page.totalHits : Int) = 0 := by omega
  simp only [summaryLine, resultsLine, hsome, decide_false, Bool.false_or]

/-- The rows of a page are no longer to write than those of its request, so that only the number of
hits may be too long. -/
theorem isWritable_rows_iff (hrows : request.hasWritableRows = true)
    (hstart : page.start = request.start) (hstop : page.stop = min request.stop page.totalHits)
    (hfirst : 0 ≤ request.start) (hlast : request.start < request.stop) :
    [page.start + 1, page.stop, (page.totalHits : Int)].all Numeral.isWritable = true ↔
      page.totalHits < 10 ^ Numeral.maxDigits := by
  -- a row that is told is one asked for, one behind it, or the number of hits
  simp only [Request.hasWritableRows, Bool.and_eq_true, Numeral.isWritable_iff] at hrows
  simp only [List.all_cons, List.all_nil, Bool.and_true, Bool.and_eq_true, Numeral.isWritable_iff]
  generalize 10 ^ Numeral.maxDigits = bound at hrows ⊢
  omega

end ResultPage

namespace Client

variable {c : Client} {markup : Markup} {query : Text} {start stop : Offset} {filename : Option Text}
  {tokens : List (Option Text)} {request : Request} {page : ResultPage}

/-- A page with hits is made of the reply to the line of a request whose rows can be written. -/
theorem ofReply_of_hits (hpage : (c.search markup request).1 = .ok page) (hhits : 0 < page.totalHits) :
    request.hasWritableRows = true ∧
      ResultPage.ofReply markup request (Terms.ofQuery request.query)
        (c.execute (request.lineFor (Terms.ofQuery request.query))).1 = .ok page := by
  cases hready : c.ready with
  | false =>
    rw [search_of_not_ready hready] at hpage
    cases hpage
    exact absurd hhits (Nat.lt_irrefl 0)
  | true =>
    by_cases hterms : Terms.ofQuery request.query = []
    · rw [search_of_no_terms hready hterms] at hpage
      cases hpage
      exact absurd hhits (Nat.lt_irrefl 0)
    · cases hrows : request.hasWritableRows with
      | false =>
        rw [search_of_long_rows hready markup hterms hrows] at hpage
        cases hpage
      | true =>
        rw [search_of_writable hready hterms hrows] at hpage
        exact ⟨rfl, hpage⟩

/-- **Which rows the line above the hits tells.** The page of a search with hits has such a line, unless
there are more of them than can be written. Counted from one, it tells the first row asked for as `a`, the
last one asked for or the last hit as `b`, and the number of hits. If the request starts within the hits,
`a` is not behind `b`, and the page has a record for each row from `a` to `b`; if it starts behind them,
`a` is behind `b`, and the page has no records. -/
theorem told_rows (hcreate : Request.create query start stop filename tokens = .ok request)
    (hpage : (c.search markup request).1 = .ok page) (hhits : 0 < page.totalHits) :
    ((∃ line, page.summaryLine = .ok line) ↔ page.totalHits < 10 ^ Numeral.maxDigits) ∧
      ∀ line, page.summaryLine = .ok line →
        ∃ a b : Int, ResultPage.rowsTold? line = some (a, b, (page.totalHits : Int)) ∧
          a = request.start + 1 ∧ b = min request.stop page.totalHits ∧
          1 ≤ a ∧ b ≤ page.totalHits ∧
          (request.start < page.totalHits → a ≤ b ∧ b - a + 1 = page.records.length) ∧
          (page.totalHits ≤ request.start → b < a ∧ page.records = []) := by
  obtain ⟨hfirst, hleast, hmost⟩ := Request.rows_of_create hcreate
  obtain ⟨hrows, hreply⟩ := ofReply_of_hits hpage hhits
  obtain ⟨hstart, hstop, hlength⟩ := ResultPage.rows_of_ofReply hreply
    (fun line hline => head?_of_mem_execute hline) hfirst (by omega)
  have htotal : (0 : Int) < page.totalHits := by omega
  have hwritable := ResultPage.isWritable_rows_iff hrows hstart hstop hfirst (by omega)
  rw [ResultPage.summaryLine_of_hits hhits]
  split
  · rename_i hall
    refine ⟨iff_of_true ⟨_, rfl⟩ (hwritable.1 hall), ?_⟩
    intro line heq
    cases heq
    refine ⟨page.start + 1, page.stop, ResultPage.rowsTold?_resultsText htotal hall,
      by rw [hstart], hstop, by omega, by omega, ?_, ?_⟩
    · intro hwithin
      omega
    · intro hbehind
      refine ⟨by omega, List.eq_nil_of_length_eq_zero ?_⟩
      omega
  · rename_i hall
    refine ⟨iff_of_false ?_ (mt hwritable.2 hall), ?_⟩
    · rintro ⟨_, ⟨⟩⟩
    · intro line heq
      cases heq

/-- Eleven hits, searched from the tenth row on: the line tells two rows, and the page has them. -/
theorem told_rows_sample :
    let account : Account :=
      { host := "localhost".toList, port := 1234, username := "anna".toList, password := []
        connectTimeout := none, readTimeout := some (.ofInt 30) }
    let turns : List Turn := [{ octets := Reply.written (List.replicate 11 [97]), ending := .closed }]
    let c : Client := { account, network := { daemon := { turns } }, phase := .ready }
    let request : Request := { start := 9, stop := 19, query := ['x'] }
    Request.create ['x'] (.whole 9) .absent none [] = .ok request ∧
      ∃ page line, (c.search .html request).1 = .ok page ∧ 0 < page.totalHits ∧
        page.summaryLine = .ok line ∧ ∃ a b : Int,
          ResultPage.rowsTold? line = some (a, b, 11) ∧ 1 ≤ a ∧ b ≤ 11 ∧ b - a + 1 = 2 := by
  intro account turns c request
  have hcreate : Request.create ['x'] (.whole 9) .absent none [] = .ok request := by decide +kernel
  obtain ⟨page, hpage, hfacts⟩ : ∃ page, (c.search .html request).1 = .ok page ∧
      (page.totalHits, page.records.length) = (11, 2) := by
    apply Outcome.exists_of_toOption_map
    decide +kernel
  obtain ⟨hhits, hrecords⟩ := Prod.mk.inj hfacts
  obtain ⟨hline, htold⟩ := told_rows hcreate hpage (by omega)
  have hwritable : page.totalHits < 10 ^ Numeral.maxDigits := by
    have hdigits : 10 ^ 2 ≤ 10 ^ Numeral.maxDigits := Nat.pow_le_pow_right (by decide) (by decide)
    omega
  obtain ⟨line, hline⟩ := hline.2 hwritable
  obtain ⟨a, b, hread, -, -, hfirst, hlast, hwithin, -⟩ := htold line hline
  have hstart : request.start = 9 := rfl
  obtain ⟨-, hlength⟩ := hwithin (by omega)
  rw [hhits] at hread
  exact ⟨hcreate, page, line, hpage, by omega, hline, a, b, hread, hfirst, by omega, by omega⟩

/-- Three hits, searched from row 20 on: the line above no rows tells the rows from 21 to 3. -/
theorem told_rows_behind_hits :
    let account : Account :=
      { host := "localhost".toList, port := 1234, username := "anna".toList, password := []
        connectTimeout := none, readTimeout := none }
    let daemon : Daemon :=
      { turns := ["@0-Hello\n", "@0-Ok\n", "a\nb\nc\n@0-Ok\n"].map fun octets =>
          { octets := Latin1.encode octets.toList } }
    let c := (fresh account daemon .zero).after [.connect]
    let request : Request := { start := 20, stop := 30, query := ['x'] }
    Request.create ['x'] (.whole 20) .absent none [] = .ok request ∧
      ∃ page line, (c.search .html request).1 = .ok page ∧ page.totalHits = 3 ∧ page.records = [] ∧
        page.summaryLine = .ok line ∧ line = "Results 21 - 3 of 3 (0.000 seconds)".toList ∧
        ResultPage.rowsTold? line = some (21, 3, 3) := by
  intro account daemon c request
  refine ⟨by decide +kernel, ?_⟩
  obtain ⟨page, hpage, hfacts⟩ : ∃ page, (c.search .html request).1 = .ok page ∧
      (page.totalHits, page.records.length, page.summaryLine.toOption) =
        (3, 0, some "Results 21 - 3 of 3 (0.000 seconds)".toList) := by
    apply Outcome.exists_of_toOption_map
    decide +kernel
  simp only [Prod.mk.injEq, List.length_eq_zero_iff] at hfacts
  obtain ⟨hhits, hrecords, hline⟩ := hfacts
  obtain ⟨line, hwritten, rfl⟩ : ∃ line, page.summaryLine = .ok line ∧
      line = "Results 21 - 3 of 3 (0.000 seconds)".toList := by
    cases hsummary : page.summaryLine with
    | error failure =>
      rw [hsummary] at hline
      cases hline
    | ok line =>
      rw [hsummary] at hline
      exact ⟨line, rfl, Option.some.inj hline⟩
  exact ⟨page, _, hpage, hhits, hrecords, hwritten, rfl, by decide +kernel⟩

end Client
end SearchClient
