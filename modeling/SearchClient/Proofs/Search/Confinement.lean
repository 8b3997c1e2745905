import SearchClient.Proofs.Request.SearchLine
import SearchClient.Proofs.Session.Inert
import SearchClient.Proofs.Session.Transcript

/-!
# What a search may send

Whatever stands in a query, a file name or a file type, a search sends its own line and no other,
and one without terms sends at most the two lines that ask for the index summary. None of these
lines has a line break, so the session never refuses one, and only the daemon can end it.

`Client.Confined` says this of a session that is handed some lines in order. It is shown once for
any lines without a line break (`Client.confined_acts`), by induction on the lines: a session that
is ready sends the first one, and goes on to the rest only if a whole frame answers it.
-/

namespace SearchClient

namespace Client

variable {c d : Client} {line : Text} {lines : List Text}

/-- When the lines are asked in order, a whole frame answers the one at position `i`. -/
def AnsweredAt (c : Client) (lines : List Text) (i : Nat) : Prop :=
  ∃ line frame, lines[i]? = some line ∧
    ((c.acts ((lines.take i).map .execute)).ask line).1 = some frame ∧ frame.complete = true

/-- The client `d` comes of `c` by asking the lines in order and by nothing else. None of them is
refused; the first is sent unless writing it fails, and each other one only after the lines before
it were answered; and the session is still ready if all were. -/
structure Confined (c : Client) (lines : List Text) (d : Client) : Prop where
  unbroken : ∀ line ∈ lines, Unbroken line
  asked : d = c.acts (lines.map .execute)
  sent : ∃ k ≤ lines.length, d.sent = c.sent ++ (lines.take k).map wire ∧
    (lines ≠ [] → c.network.nextTurn.fault ≠ some .write → 0 < k) ∧
      ∀ i, i + 1 < k → c.AnsweredAt lines i
  ready : (∀ i < lines.length, c.AnsweredAt lines i) → d.ready = true

/-! ## Lines in order -/

theorem answeredAt_zero {frame : Frame} (hreply : (c.ask line).1 = some frame)
    (hcomplete : frame.complete = true) (lines : List Text) : c.AnsweredAt (line :: lines) 0 :=
  ⟨line, frame, rfl, hreply, hcomplete⟩

theorem answeredAt_succ (i : Nat) :
    c.AnsweredAt (line :: lines) (i + 1) ↔ (c.execute line).2.AnsweredAt lines i :=
  Iff.rfl

/-- A session that a whole frame answers goes on to the rest of the lines. -/
theorem Confined.of_answered {frame : Frame} (hline : Unbroken line)
    (hreply : (c.ask line).1 = some frame) (hcomplete : frame.complete = true)
    (hsent : (c.execute line).2.sent = c.sent ++ [wire line])
    (h : (c.execute line).2.Confined lines d) : c.Confined (line :: lines) d := by
  rcases h.sent with ⟨k, hk, hrest, -, hanswered⟩
  refine ⟨?_, h.asked, ⟨k + 1, by simpa using hk, ?_, fun _ _ => k.succ_pos, ?_⟩, ?_⟩
  · intro l hl
    rcases List.mem_cons.1 hl with rfl | hl
    · exact hline
    · exact h.unbroken l hl
  · rw [hrest, hsent]
    simp
  · intro i hi
    cases i with
    | zero => exact answeredAt_zero hreply hcomplete lines
    | succ i => exact (answeredAt_succ i).2 (hanswered i (by omega))
  · intro hall
    exact h.ready fun i hi => (answeredAt_succ i).1 (hall (i + 1) (by simpa using hi))

/-- A session that is not answered by a whole frame ends, and sends none of the other lines. -/
theorem Confined.of_ended (hready : c.ready = true) (hlines : ∀ l ∈ line :: lines, Unbroken l)
    (hnone : ∀ frame, (c.ask line).1 = some frame → frame.complete = false)
    (hended : (c.execute line).2.ready = false) :
    c.Confined (line :: lines) (c.acts ((line :: lines).map .execute)) := by
  have hline : Unbroken line := hlines line List.mem_cons_self
  have hrest : (c.acts ((line :: lines).map .execute)).sent = (c.execute line).2.sent := by
    rw [List.map_cons, acts_cons, act, acts_of_not_ready hended]
    rfl
  refine ⟨hlines, rfl, ?_, ?_⟩
  · by_cases hfault : c.network.nextTurn.fault = some .write
    · -- nothing is promised here, so it is enough that no more than the first line is sent
      have hask : (c.execute line).2.sent = (c.ask line).2.sent := by
        rw [execute_of_ready hready, sent_settle]
      rcases sent_ask_or line c with hsame | ⟨-, hone⟩
      · exact ⟨0, by simp, by rw [hrest, hask, hsame]; simp, fun _ h => absurd hfault h, by omega⟩
      · exact ⟨1, by simp, by rw [hrest, hask, hone]; simp, fun _ _ => by simp, by omega⟩
    · have hone := sent_execute hready hline hfault
      exact ⟨1, by simp, by rw [hrest, hone]; simp, fun _ _ => by simp, by omega⟩
  · intro hall
    rcases hall 0 (by simp) with ⟨l, frame, hl, hreply, hcomplete⟩
    have hsame : line = l := by simpa using hl
    subst hsame
    have hopen := hnone frame hreply
    rw [hcomplete] at hopen
    cases hopen

/-- A request leaves the session ready if a whole frame answers it, and ends it otherwise. -/
theorem execute_cases (hready : c.ready = true) (line : Text) :
    (∃ frame, (c.ask line).1 = some frame ∧ frame.complete = true ∧
      (c.execute line).2.ready = true) ∨
      (∀ frame, (c.ask line).1 = some frame → frame.complete = false) ∧
        (c.execute line).2.ready = false := by
  have hphase := (kept_ask line c).phase
  rw [execute_of_ready hready]
  rcases hask : c.ask line with ⟨_ | frame, e⟩
  · -- the line was not sent whole
    exact .inr ⟨nofun, by simp [settle, ready]⟩
  · rw [hask] at hphase
    cases hcomplete : frame.complete with
    | false =>
      refine .inr ⟨?_, by simp [settle, hcomplete, ready]⟩
      intro frame' heq
      cases heq
      exact hcomplete
    | true =>
      refine .inl ⟨frame, rfl, hcomplete, ?_⟩
      have hkept : (settle (some frame, e)).2.phase = c.phase := by
        simpa [settle, hcomplete] using hphase
      rw [ready, hkept]
      exact hready

/-- **A session that is ready is confined to the lines it is handed**, if none has a line break. -/
theorem confined_acts (hready : c.ready = true) (hlines : ∀ line ∈ lines, Unbroken line) :
    c.Confined lines (c.acts (lines.map .execute)) := by
  -- by induction on the lines; the rest is asked of the session that the first one leaves
  induction lines generalizing c with
  | nil =>
    refine ⟨hlines, rfl, ⟨0, Nat.le_refl 0, by simp, fun h => absurd rfl h, by omega⟩, ?_⟩
    exact fun _ => hready
  | cons line lines ih =>
    have hline : Unbroken line := hlines line List.mem_cons_self
    rcases execute_cases hready line with ⟨frame, hreply, hcomplete, hrest⟩ | ⟨hnone, hended⟩
    · have hsent : (c.execute line).2.sent = c.sent ++ [wire line] := by
        rw [execute_of_ready hready, sent_settle]
        exact sent_of_reply hreply
      have hlater := ih hrest fun l hl => hlines l (List.mem_cons_of_mem line hl)
      exact Confined.of_answered hline hreply hcomplete hsent hlater
    · exact Confined.of_ended hready hlines hnone hended

/-! ## Requests -/

theorem unbroken_getLine (first : Int) (last : Option Int) : Unbroken (getLine first last) := by
  have hform : getLine first last =
      "@get ".toList ++ Numeral.write first ++ ([' '] ++ Numeral.write (lastOffset first last)) :=
    rfl
  rw [hform]
  simp only [unbroken_append]
  exact ⟨⟨by decide, unbroken_numeral first⟩, by decide, unbroken_numeral _⟩

theorem confined_indexSummary (hready : c.ready = true) :
    c.Confined [summaryLine, statisticsLine] c.indexSummary.2 := by
  have hlines : ∀ line ∈ [summaryLine, statisticsLine], Unbroken line := by decide
  rw [indexSummary_snd]
  exact confined_acts hready hlines

theorem confined_search_of_line {request : Request} (hready : c.ready = true) (markup : Markup)
    (hterms : Terms.ofQuery request.query ≠ []) (hrows : request.hasWritableRows = true) :
    ∃ line, request.ownLine = .ok line ∧ c.Confined [line] (c.search markup request).2 := by
  have hline : request.ownLine = .ok request.inquiry.write := by
    rw [Request.ownLine_of_terms hterms, hrows]
    rfl
  have hunbroken : ∀ line ∈ [request.inquiry.write], Unbroken line := by
    intro line hmem
    rw [List.mem_singleton.1 hmem]
    exact Inquiry.unbroken_write (Request.sound_inquiry hrows hterms)
  have hsteps : (c.search markup request).2 = c.acts ([request.inquiry.write].map .execute) := by
    rw [search_snd, if_pos hready, Request.steps, hline]
    rfl
  exact ⟨request.inquiry.write, hline, hsteps ▸ confined_acts hready hunbroken⟩

theorem search_of_long_rows {request : Request} (hready : c.ready = true) (markup : Markup)
    (hterms : Terms.ofQuery request.query ≠ []) (hrows : request.hasWritableRows = false) :
    c.search markup request = (.error .numeralTooLong, c) := by
  have hline : request.searchLine (Terms.ofQuery request.query) = .error .numeralTooLong := by
    have hown := Request.ownLine_of_terms hterms
    rw [hrows] at hown
    exact hown
  simp only [search, hready, if_true, searchTerms, hline]

theorem confined_search_of_no_terms {request : Request} (hready : c.ready = true) (markup : Markup)
    (hterms : Terms.ofQuery request.query = []) :
    c.Confined [summaryLine, statisticsLine] (c.search markup request).2 := by
  have hline : request.ownLine = .error (.noSearchTerms request.query) := by
    rw [Request.ownLine, hterms]
    rfl
  have hsteps : (c.search markup request).2 = c.indexSummary.2 := by
    rw [search_snd, if_pos hready, Request.steps, hline]
    rfl
  exact hsteps ▸ confined_indexSummary hready

theorem confined_fetchText (hready : c.ready = true) {first : Int} {last : Option Int}
    (hrows : [first, lastOffset first last].all Numeral.isWritable = true) :
    c.Confined [getLine first last] (c.fetchText first last).2 := by
  have hunbroken : ∀ line ∈ [getLine first last], Unbroken line := by
    intro line hmem
    rw [List.mem_singleton.1 hmem]
    exact unbroken_getLine first last
  have hsteps : (c.fetchText first last).2 = c.acts ([getLine first last].map .execute) := by
    rw [fetchText, if_pos hrows]
    rfl
  exact hsteps ▸ confined_acts hready hunbroken

/-- **No text of a request is a second command, and none ends the session.** In every session that
is ready, against every daemon: a search with terms sends at most its own line, one without terms
and the index summary at most two fixed lines, the second only after a whole reply to the first,
and document text is asked for by one line whose last offset is never before the first. No line is
refused, so the first is sent unless writing it fails. Only rows or offsets that are too long to be
written keep a line from being built; then nothing is sent and the session stays as it is. -/
theorem confined_requests (c : Client) (hready : c.ready = true) :
    (∀ markup (request : Request), Terms.ofQuery request.query ≠ [] →
      request.hasWritableRows = true →
        ∃ line, request.ownLine = .ok line ∧ c.Confined [line] (c.search markup request).2) ∧
      (∀ markup (request : Request), Terms.ofQuery request.query = [] →
        c.Confined ["@summary".toList, "@filestats".toList] (c.search markup request).2) ∧
      c.Confined ["@summary".toList, "@filestats".toList] c.indexSummary.2 ∧
      (∀ first last, [first, max first (last.getD first)].all Numeral.isWritable = true →
        c.Confined ["@get ".toList ++ Numeral.write first ++
          ' ' :: Numeral.write (max first (last.getD first))] (c.fetchText first last).2) ∧
      (∀ markup (request : Request), Terms.ofQuery request.query ≠ [] →
        request.hasWritableRows = false → c.search markup request = (.error .numeralTooLong, c)) ∧
      (∀ first last, [first, max first (last.getD first)].all Numeral.isWritable = false →
        c.fetchText first last = (.error .numeralTooLong, c)) := by
  refine ⟨?_, ?_, confined_indexSummary hready, ?_, ?_, ?_⟩
  · intro markup request hterms hrows
    exact confined_search_of_line hready markup hterms hrows
  · intro markup request hterms
    exact confined_search_of_no_terms hready markup hterms
  · intro first last hrows
    exact confined_fetchText hready hrows
  · intro markup request hterms hrows
    exact search_of_long_rows hready markup hterms hrows
  · intro first last hrows
    exact fetchText_of_long (Bool.eq_false_iff.1 hrows) c

/-- The first line is all that is sent when no other may follow it. -/
theorem Confined.sent_singleton (h : c.Confined [line] d)
    (hfault : c.network.nextTurn.fault ≠ some .write) : d.sent = c.sent ++ [wire line] := by
  rcases h.sent with ⟨k, hk, hsent, hpos, -⟩
  have hone : k = 1 := by
    have hfirst := hpos (by simp) hfault
    have hlast : k ≤ 1 := hk
    omega
  rw [hsent, hone]
  rfl

/-- A query, a file name and a file type with a line break and a second command in each, and
numbers that are too long. -/
theorem confined_requests_sample :
    let account : Account :=
      { host := "localhost".toList, port := 1234, username := "anna".toList, password := []
        connectTimeout := none, readTimeout := none }
    let c : Client := { account, network := {}, phase := .ready }
    let request : Request :=
      { query := "foo\n@get 0 9".toList, filename := some "a]\r\n@get".toList
        fileTypes := ["b\n@x".toList] }
    let line :=
      "@desktop[start=0][end=10][filename=a@get][filetype=b@x] \"foo\", \"@get\", \"0\", \"9\""
    (c.search .html request).2.sent = [wire line.toList] ∧
      c.Confined ["@summary".toList, "@filestats".toList] (c.search .html { query := ['\n'] }).2 ∧
      (c.fetchText 7 (some 3)).2.sent = [wire "@get 7 7".toList] ∧
      c.search .html { start := (10 ^ Numeral.maxDigits : Nat), query := ['x'] } =
        (.error .numeralTooLong, c) ∧
      c.fetchText (10 ^ Numeral.maxDigits : Nat) none = (.error .numeralTooLong, c) := by
  intro account c request line
  rcases confined_requests c rfl with ⟨hsearch, hblank, -, htext, hlong, hfar⟩
  have hfault : c.network.nextTurn.fault ≠ some .write := by decide
  have hwritable : Numeral.isWritable (10 ^ Numeral.maxDigits : Nat) = false :=
    Numeral.isWritable_eq_false (Nat.le_refl _)
  refine ⟨?_, hblank .html { query := ['\n'] } (by decide +kernel), ?_, ?_, ?_⟩
  · rcases hsearch .html request (by decide +kernel) (by decide) with ⟨built, hbuilt, hconfined⟩
    have hline : request.ownLine.toOption = some line.toList := by decide +kernel
    rw [hbuilt] at hline
    cases hline
    exact hconfined.sent_singleton hfault
  · exact (htext 7 (some 3) (by decide)).sent_singleton hfault
  · refine hlong .html _ (by decide +kernel) ?_
    rw [Request.hasWritableRows, hwritable, Bool.false_and]
  · refine hfar _ none ?_
    rw [List.all_cons, hwritable, Bool.false_and]

/-- A row that is too long to be written keeps the line of a search with a term from being sent,
though no line fails. -/
theorem search_of_long_row_sends_nothing :
    let account : Account :=
      { host := "localhost".toList, port := 1234, username := "anna".toList, password := []
        connectTimeout := none, readTimeout := none }
    let c : Client := { account, network := {}, phase := .ready }
    let request : Request :=
      { start := (10 ^ Numeral.maxDigits - 1 : Nat), stop := (10 ^ Numeral.maxDigits + 9 : Nat)
        query := ['x'] }
    c.ready = true ∧ c.network.nextTurn.fault = none ∧ Terms.ofQuery request.query = [['x']] ∧
      ∀ markup, (c.search markup request).2.sent = [] := by
  intro account c request
  have hterms : Terms.ofQuery request.query = [['x']] := by decide +kernel
  have hstop : Numeral.isWritable request.stop = false :=
    Numeral.isWritable_eq_false (Nat.le_add_right _ 9)
  have hrows : request.hasWritableRows = false := by
    rw [Request.hasWritableRows, hstop, Bool.and_false]
  refine ⟨rfl, rfl, hterms, ?_⟩
  intro markup
  have hsearch := search_of_long_rows (c := c) rfl markup (by simp [hterms]) hrows
  rw [hsearch]
  rfl

end Client
end SearchClient
