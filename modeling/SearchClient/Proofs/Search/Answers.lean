import SearchClient.Proofs.Result.Legible
import SearchClient.Proofs.Search.Confinement

/-!
# Which searches are answered

Whatever the daemon sends, a search over a session gives a page, unless a row of the request is too
long to be written, one of the rows asked for has an encoded word that is not legible, or the start
is too far for a window. `Answerable` excludes these, and `Client.exists_search_iff` says that there
are no others: lines without tags, statuses without a time, a broken connection and a query without
terms are all answered by a page.
-/

namespace SearchClient

/-! ## Requests from whole rows -/

/-- A row offset that is a whole number or missing. -/
def Offset.ofInt? : Option Int → Offset
  | none => .absent
  | some n => .whole n

theorem Request.create_of_rows (query : Text) (start stop : Option Int) (filename : Option Text)
    (tokens : List (Option Text)) :
    Request.create query (.ofInt? start) (.ofInt? stop) filename tokens =
      .ok {
        start := max 0 (start.getD 0)
        stop := clampStop (max 0 (start.getD 0)) (stop.getD (max 0 (start.getD 0) + pageSize))
        query := Text.without ['\\'] query
        filename := filename.filter fun name => !name.isEmpty
        fileTypes := selection tokens } := by
  cases start <;> cases stop <;> rfl

/-! ## Statuses -/

/-- A status in whose parentheses no number comes first, or that has none. -/
def tellsNoTime (status : Text) : Prop :=
  ∀ before rest, Text.cut? ['('] status = some (before, rest) →
    Binary64.read? (rest.takeWhile (· != ' ')) = none

theorem elapsedOf_of_tellsNoTime {status : Text} (h : tellsNoTime status) :
    elapsedOf status = .zero := by
  cases hcut : Text.cut? ['('] status with
  | none => rw [elapsedOf, hcut]
  | some parts => simp [elapsedOf, hcut, h parts.1 parts.2 hcut]

/-! ## Searches -/

/-- The request's rows can be written, and the reply to it makes a page. -/
structure Answerable (markup : Markup) (request : Request) (frame : Frame) : Prop where
  writable : request.hasWritableRows = true
  legible : ∀ line ∈ ResultPage.rows request frame.body, Record.Legible markup line
  within : pageSize < countHits frame.body → request.start < PageWindow.reach

namespace Client

variable {c : Client} {markup : Markup} {request : Request}

theorem search_of_not_ready (h : c.ready = false) (markup : Markup) (request : Request) :
    (c.search markup request).1 =
      .ok { ResultPage.blank request (Terms.ofQuery request.query) with
        status := notConnected } := by
  rw [search, h]
  rfl

/-- A query without terms is answered by what the daemon has indexed. -/
theorem search_of_no_terms (hready : c.ready = true) (hterms : Terms.ofQuery request.query = [])
    (markup : Markup) :
    (c.search markup request).1 =
      .ok { ResultPage.blank request [] with
        summary := some c.indexSummary.1, status := c.indexSummary.2.status } := by
  have hline : request.searchLine [] = .error (.noSearchTerms request.query) := rfl
  rw [search, hready, hterms, searchTerms, hline]
  rfl

/-- A search with terms makes a page of the reply to its line. -/
theorem search_of_writable (hready : c.ready = true) (hterms : Terms.ofQuery request.query ≠ [])
    (hrows : request.hasWritableRows = true) (markup : Markup) :
    c.search markup request =
      (ResultPage.ofReply markup request (Terms.ofQuery request.query)
        (c.execute (request.lineFor (Terms.ofQuery request.query))).1,
        (c.execute (request.lineFor (Terms.ofQuery request.query))).2) := by
  have hline : request.searchLine (Terms.ofQuery request.query) =
      .ok (request.lineFor (Terms.ofQuery request.query)) := by
    have hown := Request.ownLine_of_terms hterms
    rw [hrows, ← Request.lineFor_eq_write] at hown
    exact hown
  rw [search, hready, searchTerms, hline]
  rfl

/-- **A search has a page exactly if it is answerable**, over a session that is ready and for a
query with terms; any other search always has one. -/
theorem exists_search_iff (c : Client) (markup : Markup) (request : Request) :
    (∃ page, (c.search markup request).1 = .ok page) ↔
      (c.ready = true → Terms.ofQuery request.query ≠ [] →
        Answerable markup request
          (c.execute (request.lineFor (Terms.ofQuery request.query))).1) := by
  cases hready : c.ready with
  | false =>
    have hpage := search_of_not_ready hready markup request
    exact ⟨fun _ => nofun, fun _ => ⟨_, hpage⟩⟩
  | true =>
    by_cases hterms : Terms.ofQuery request.query = []
    · have hpage := search_of_no_terms hready hterms markup
      exact ⟨fun _ _ h => absurd hterms h, fun _ => ⟨_, hpage⟩⟩
    · rw [forall_prop_of_true rfl, forall_prop_of_true hterms]
      cases hrows : request.hasWritableRows with
      | false =>
        rw [search_of_long_rows hready markup hterms hrows]
        constructor
        · rintro ⟨_, ⟨⟩⟩
        · intro h
          -- its rows are too long for a line, so it is not answerable either
          have hwritable := h.writable
          rw [hrows] at hwritable
          cases hwritable
      | true =>
        rw [search_of_writable hready hterms hrows, ResultPage.exists_ofReply_iff]
        constructor
        · rintro ⟨hlegible, hwithin⟩
          exact ⟨hrows, hlegible, hwithin⟩
        · intro h
          exact ⟨h.legible, h.within⟩

theorem elapsed_of_search {page : ResultPage} (h : (c.search markup request).1 = .ok page)
    (htime : tellsNoTime page.status) : page.elapsed = .zero := by
  cases hready : c.ready with
  | false =>
    rw [search_of_not_ready hready] at h
    cases h
    rfl
  | true =>
    by_cases hterms : Terms.ofQuery request.query = []
    · rw [search_of_no_terms hready hterms] at h
      cases h
      rfl
    · cases hrows : request.hasWritableRows with
      | false =>
        rw [search_of_long_rows hready markup hterms hrows] at h
        cases h
      | true =>
        rw [search_of_writable hready hterms hrows, ResultPage.ofReply_eq_ok_iff] at h
        rcases h with ⟨records, window, -, -, rfl⟩
        exact elapsedOf_of_tellsNoTime htime

theorem exists_fetchText_iff (c : Client) (first : Int) (last : Option Int) :
    (∃ document, (c.fetchText first last).1 = .ok document) ↔
      [first, lastOffset first last].all Numeral.isWritable = true := by
  rw [fetchText]
  split
  · rename_i h
    exact ⟨fun _ => h, fun _ => ⟨_, rfl⟩⟩
  · rename_i h
    constructor
    · rintro ⟨_, ⟨⟩⟩
    · intro hrows
      exact absurd hrows h

/-- **What a daemon cannot make fail.** Over every session, whatever was done with it and whatever
the daemon sends: a request from whole or missing rows is always made; it has a page exactly if it
is answerable, and for a query without terms that page is the index summary; a status that tells no
time makes a duration of zero, a line without a tag an empty record; and document text is fetched
exactly if its offsets can be written. -/
theorem search_answers (c : Client) (markup : Markup) (query : Text) (start stop : Option Int)
    (filename : Option Text) (tokens : List (Option Text)) :
    ∃ request,
      Request.create query (.ofInt? start) (.ofInt? stop) filename tokens = .ok request ∧
        ((∃ page, (c.search markup request).1 = .ok page) ↔
          (c.ready = true → Terms.ofQuery request.query ≠ [] →
            Answerable markup request
              (c.execute (request.lineFor (Terms.ofQuery request.query))).1)) ∧
        (c.ready = true → Terms.ofQuery request.query = [] →
          ∃ page, (c.search markup request).1 = .ok page ∧
            page.summary = some c.indexSummary.1) ∧
        (∀ page, (c.search markup request).1 = .ok page → tellsNoTime page.status →
          page.elapsed = .zero) ∧
        (∀ terms line, '<' ∉ line → Record.ofLine markup terms line = .ok .blank) ∧
        ∀ first last, (∃ document, (c.fetchText first last).1 = .ok document) ↔
          [first, lastOffset first last].all Numeral.isWritable = true := by
  refine ⟨_, Request.create_of_rows query start stop filename tokens, ?_, ?_, ?_, ?_, ?_⟩
  · exact exists_search_iff c markup _
  · intro hready hterms
    exact ⟨_, search_of_no_terms hready hterms markup, rfl⟩
  · intro page hpage htime
    exact elapsed_of_search hpage htime
  · intro terms line hline
    exact Record.ofLine_of_no_tag hline
  · intro first last
    exact exists_fetchText_iff c first last

/-- A title with a NUL in the label of an encoded word takes the page from a search over a session
that is ready. -/
theorem search_of_nul_label_has_no_page :
    let account : Account :=
      { host := "localhost".toList, port := 1234, username := "anna".toList, password := []
        connectTimeout := none, readTimeout := none }
    let reply := "<title>=?ISO-\x00?Q?x?=</title>\n@0-Ok\n"
    let daemon : Daemon :=
      { turns := ["@0-Hello\n", "@0-Ok\n", reply].map fun octets =>
          { octets := Latin1.encode octets.toList } }
    let c := (fresh account daemon .zero).after [.connect]
    let request : Request := { query := ['x'] }
    c.ready = true ∧ Request.create ['x'] (.ofInt? none) (.ofInt? none) none [] = .ok request ∧
      ¬ ∃ page, (c.search .html request).1 = .ok page := by
  intro account reply daemon c request
  refine ⟨by decide +kernel, rfl, ?_⟩
  rintro ⟨page, hpage⟩
  have hnone : (c.search .html request).1.toOption.isSome = false := by decide +kernel
  rw [hpage] at hnone
  cases hnone

end Client
end SearchClient
