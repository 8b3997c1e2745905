import SearchClient.Proofs.Search.Answers
import SearchClient.Proofs.Request.Normal
import SearchClient.Proofs.Result.Paging
import SearchClient.Proofs.Session.Timely

/-!
# Pages as slices of a reply

The hits of a reply are its body lines before the first empty one. The page of a search shows a slice
of them, from the first row asked for to the last one that there is, and counts them all. This holds of
every reply, also of one that breaks off or comes late, and of rows beyond the hits.

1. `Client.head?_of_mem_execute` says that no line of a reply starts with an at sign, so that only an
   empty line ends the hits (`ResultPage.countHits_eq`);
2. `ResultPage.rows_eq` says which lines the page is made of;
3. `Client.search_slice` says what the page then shows.
-/

namespace SearchClient

theorem Request.rows_of_create {query : Text} {start stop : Offset} {filename : Option Text}
    {tokens : List (Option Text)} {request : Request}
    (h : Request.create query start stop filename tokens = .ok request) :
    0 ≤ request.start ∧ request.start + 10 ≤ request.stop ∧ request.stop ≤ request.start + 20 := by
  have hnormal := isNormal_of_create h
  exact ⟨hnormal.start_nonneg, hnormal.ten_rows, hnormal.twenty_rows⟩

/-! ## Lines of a reply -/

theorem Frame.head?_of_mem_body {deadline : Option Binary64} {s : Stream} {text : Text}
    (h : text ∈ (Frame.read deadline s).1.body) : text.head? ≠ some '@' := by
  have hbody : text ∈ s.bodyLines.map Frame.characters := by
    rcases Frame.read_cases deadline s with ⟨-, hread⟩ | ⟨n, -, hread⟩
    · rwa [hread, Frame.body_eq] at h
    · rw [hread, List.map_take] at h
      exact List.mem_of_mem_take h
  obtain ⟨line, hline, rfl⟩ := List.mem_map.1 hbody
  rw [Ne, Frame.head?_characters]
  exact (Stream.mem_bodyLines hline).2

theorem Client.head?_of_mem_execute {c : Client} {line text : Text}
    (h : text ∈ (c.execute line).1.body) : text.head? ≠ some '@' := by
  rcases execute_fst_cases line c with hreply | hreply
  · rw [hreply] at h
    exact Frame.head?_of_mem_body h
  · rw [hreply] at h
    cases h

namespace ResultPage

variable {markup : Markup} {terms : List Text} {request : Request} {body : List Text} {frame : Frame}
  {page : ResultPage}

/-- The lines of a body before the first empty one. -/
def hits (body : List Text) : List Text := body.takeWhile fun line => !line.isEmpty

theorem countHits_eq (h : ∀ line ∈ body, line.head? ≠ some '@') :
    countHits body = (hits body).length := by
  rw [countHits, hits]
  induction body with
  | nil => rfl
  | cons line body ih =>
    -- a line that is not empty is no hit only if it starts with an at sign
    have hline : isHitLine line = !line.isEmpty := by
      have hopen := h line List.mem_cons_self
      cases line with
      | nil => rfl
      | cons c line =>
        have hc : '@' ≠ c := fun heq => hopen (congrArg some heq.symm)
        simp [isHitLine, List.isPrefixOf, hc]
    have hrest := ih fun l hl => h l (List.mem_cons_of_mem line hl)
    simp only [List.takeWhile_cons, hline]
    split
    · rw [List.length_cons, List.length_cons, hrest]
    · rfl

theorem take_length_hits (body : List Text) : body.take (hits body).length = hits body :=
  (List.prefix_iff_eq_take.1 (List.takeWhile_prefix _)).symm

theorem getElem?_of_getElem?_hits {i : Nat} {line : Text} (h : (hits body)[i]? = some line) :
    body[i]? = some line ∧ i < (hits body).length := by
  obtain ⟨hi, -⟩ := List.getElem?_eq_some_iff.1 h
  rw [← take_length_hits, List.getElem?_take, if_pos hi] at h
  exact ⟨h, hi⟩

section Rows

variable (hhits : countHits body = (hits body).length) (hstart : 0 ≤ request.start)
  (hstop : 0 ≤ request.stop)

include hhits hstart hstop

/-- The lines that a page is made of: those of the hits from the first row asked for on, as far as
there are any. -/
theorem rows_eq :
    rows request body = ((hits body).take request.stop.toNat).drop request.start.toNat := by
  obtain ⟨first, hfirst⟩ := Int.eq_ofNat_of_zero_le hstart
  obtain ⟨last, hlast⟩ := Int.eq_ofNat_of_zero_le hstop
  have hmin : min request.stop (hits body).length = (min last (hits body).length : Nat) := by omega
  rw [rows, hhits, hmin, hfirst, hlast, slice_natCast, Int.toNat_natCast, Int.toNat_natCast,
    ← List.take_take, take_length_hits]

theorem length_rows :
    ((rows request body).length : Int) =
      max 0 (min request.stop (hits body).length - request.start) := by
  rw [rows_eq hhits hstart hstop, List.length_drop, List.length_take]
  omega

theorem length_records {records : List Record}
    (h : (rows request body).mapM (Record.ofLine markup terms) = .ok records) :
    (records.length : Int) = max 0 (min request.stop (hits body).length - request.start) := by
  rw [← (Outcome.mapM_eq_ok_iff.1 h).length_eq]
  exact length_rows hhits hstart hstop

theorem getElem?_rows {i : Nat} {line : Text} (h : (rows request body)[i]? = some line) :
    (hits body)[request.start.toNat + i]? = some line := by
  rw [rows_eq hhits hstart hstop, List.getElem?_drop, List.getElem?_take] at h
  split at h
  · exact h
  · cases h

end Rows

/-- A page has the window around its first row, or there are too few hits for one. -/
theorem windowOf_cases {total : Nat} {start : Int} {window : Option PageWindow}
    (h : windowOf total start = .ok window) :
    total ≤ 10 ∧ window = none ∨
      10 < total ∧ ∃ previous, window = some (.around total start previous) := by
  have hsize : pageSize = 10 := rfl
  rw [windowOf] at h
  split at h
  · rename_i hmany
    cases hwindow : PageWindow.forHits total start with
    | error failure =>
      rw [hwindow] at h
      cases h
    | ok w =>
      obtain ⟨previous, -, rfl⟩ := PageWindow.forHits_eq_ok_iff.1 hwindow
      rw [hwindow] at h
      cases h
      exact .inr ⟨by omega, previous, rfl⟩
  · rename_i hfew
    cases h
    exact .inl ⟨by omega, rfl⟩

/-- The window of a page of usual size: its current page has the first row asked for, and its last one
the last hit. -/
theorem window_bounds {total : Nat} {start : Int} {window : Option PageWindow}
    (h : windowOf total start = .ok window) :
    (window.isSome = true ↔ 10 < total) ∧
      ∀ w, window = some w → (w.current - 1) * 10 ≤ start ∧ start < w.current * 10 ∧
        (w.maxPage - 1) * 10 < total ∧ total ≤ w.maxPage * 10 := by
  rcases windowOf_cases h with ⟨hfew, rfl⟩ | ⟨hmany, previous, rfl⟩
  · refine ⟨iff_of_false (by decide) (by omega), ?_⟩
    intro w hw
    cases hw
  · refine ⟨iff_of_true rfl hmany, ?_⟩
    intro w hw
    cases hw
    rw [PageWindow.current_around, PageWindow.maxPage_around]
    omega

end ResultPage

namespace Client

variable {c : Client} {markup : Markup} {query : Text} {start stop : Offset} {filename : Option Text}
  {tokens : List (Option Text)} {request : Request} {page : ResultPage}

/-- **A page is the slice of the leading hits that was asked for.** A session that is ready searches
for a query with terms, and there is a page. Then the hits are the lines of the reply before the first
empty one, and all of them are counted; the page ends with the last row asked for or the last hit; its
records are those of the hits from the first row asked for to that end, in order, read with the terms
of the query, and there are no more than twenty; and its status is that of the reply. The page has a
window exactly if there are more than ten hits: its current page is the one of ten rows that has the
first row asked for, and its last one is the one that has the last hit. -/
theorem search_slice (hready : c.ready = true)
    (hcreate : Request.create query start stop filename tokens = .ok request)
    (hterms : Terms.ofQuery request.query ≠ []) (hpage : (c.search markup request).1 = .ok page) :
    let terms := Terms.ofQuery request.query
    let reply := (c.execute (request.lineFor terms)).1
    let hits := reply.body.takeWhile fun line => !line.isEmpty
    page.totalHits = hits.length ∧
      page.stop = min request.stop hits.length ∧
      (page.records.length : Int) = max 0 (page.stop - request.start) ∧
      page.records.length ≤ 20 ∧
      (∀ i record, page.records[i]? = some record →
        ∃ line, reply.body[request.start.toNat + i]? = some line ∧
          request.start.toNat + i < hits.length ∧ Record.ofLine markup terms line = .ok record) ∧
      page.status = reply.status ∧
      (page.window.isSome = true ↔ 10 < page.totalHits) ∧
      ∀ window, page.window = some window →
        (window.current - 1) * 10 ≤ request.start ∧ request.start < window.current * 10 ∧
          (window.maxPage - 1) * 10 < page.totalHits ∧ page.totalHits ≤ window.maxPage * 10 := by
  intro terms reply hits
  obtain ⟨hfirst, hleast, hmost⟩ := Request.rows_of_create hcreate
  cases hrows : request.hasWritableRows with
  | false =>
    rw [search_of_long_rows hready markup hterms hrows] at hpage
    cases hpage
  | true =>
    rw [search_of_writable hready hterms hrows, ResultPage.ofReply_eq_ok_iff] at hpage
    obtain ⟨records, window, hrecords, hwindow, rfl⟩ := hpage
    have hhits : countHits (c.execute (request.lineFor (Terms.ofQuery request.query))).1.body =
        hits.length := ResultPage.countHits_eq fun line hline => head?_of_mem_execute hline
    have hlength : (records.length : Int) = max 0 (min request.stop hits.length - request.start) :=
      ResultPage.length_records hhits hfirst (by omega) hrecords
    rw [hhits] at hwindow
    have hbounds := ResultPage.window_bounds hwindow
    dsimp only
    rw [hhits]
    refine ⟨rfl, rfl, hlength, by omega, ?_, rfl, hbounds.1, hbounds.2⟩
    intro i record hrecord
    obtain ⟨line, hline, hread⟩ := Outcome.exists_getElem?_of_mapM hrecords hrecord
    obtain ⟨hbody, hlt⟩ := ResultPage.getElem?_of_getElem?_hits
      (ResultPage.getElem?_rows hhits hfirst (by omega) hline)
    exact ⟨line, hbody, hlt, hread⟩

/-- A reply of eleven hits, an empty line and one more that breaks off, searched from its tenth row on. -/
theorem search_slice_sample :
    let account : Account :=
      { host := "localhost".toList, port := 1234, username := "anna".toList, password := []
        connectTimeout := none, readTimeout := some (.ofInt 30) }
    let turns : List Turn :=
      [{ octets := Reply.written (List.replicate 11 [97] ++ [[], [98]]), ending := .closed }]
    let c : Client := { account, network := { daemon := { turns } }, phase := .ready }
    let request : Request := { start := 9, stop := 19, query := ['x'] }
    c.ready = true ∧ Request.create ['x'] (.text ['9']) .absent none [] = .ok request ∧
      Terms.ofQuery request.query ≠ [] ∧
      ∃ page, (c.search .html request).1 = .ok page ∧ page.totalHits = 11 ∧ page.stop = 11 ∧
        page.records.length = 2 ∧ page.status = [] ∧
        ∃ window, page.window = some window ∧ window.current = 1 ∧ window.maxPage = 2 := by
  intro account turns c request
  have hcreate : Request.create ['x'] (.text ['9']) .absent none [] = .ok request := by decide +kernel
  have hterms : Terms.ofQuery request.query ≠ [] := by decide +kernel
  obtain ⟨page, hpage, -⟩ : ∃ page, (c.search .html request).1 = .ok page ∧ () = () := by
    apply Outcome.exists_of_toOption_map (g := fun _ => ())
    decide +kernel
  obtain ⟨htotal, hstop, hlength, -, -, hstatus, hwindow, hbounds⟩ :=
    search_slice rfl hcreate hterms hpage
  have hhits : page.totalHits = 11 := by
    rw [htotal]
    decide +kernel
  rw [← htotal, hhits] at hstop
  rw [hstop] at hlength
  have hempty : page.status = [] := by
    rw [hstatus]
    decide +kernel
  obtain ⟨window, hsome⟩ := Option.isSome_iff_exists.1 (hwindow.2 (by omega))
  have hedges := hbounds window hsome
  rw [hhits] at hedges
  have hstart : request.start = 9 := rfl
  have hlast : request.stop = 19 := rfl
  refine ⟨rfl, hcreate, hterms, page, hpage, hhits, ?_, ?_, hempty, window, hsome, ?_, ?_⟩
  all_goals omega

end Client
end SearchClient
