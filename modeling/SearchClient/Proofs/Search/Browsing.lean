import Mathlib.Data.List.TakeWhile
import SearchClient.Proofs.Result.Paging
import SearchClient.Proofs.Search.Answers
import SearchClient.Proofs.Session.InStep

/-!
# Browsing through all hits

A caller who starts at the first row and follows the next links sees every hit once and in order,
and the previous links lead the same way back. `Client.Follow` is a caller who follows one kind of
link from a page on until a page has none. Against a daemon that answers every request with the same
lines (`Client.Serves`) one search shows the position it was started for
(`Client.searchAt_of_serves`); both directions are then inductions on the positions left.
-/

namespace SearchClient

/-! ## Requests for a position -/

/-- What a caller hands over for a query and a row is a request for ten rows from it on. -/
theorem Request.create_of_page (query : Text) (k : Nat) :
    Request.create query (.whole (10 * k : Nat)) .absent none [] =
      .ok {
        start := (10 * k : Nat)
        stop := (10 * k + 10 : Nat)
        query := Text.without ['\\'] query } := by
  have hstart : max 0 ((10 * k : Nat) : Int) = (10 * k : Nat) := by omega
  have hstop : Request.clampStop (10 * k : Nat) ((10 * k : Nat) + pageSize) =
      (10 * k + 10 : Nat) := by
    simp only [Request.clampStop, pageSize, maxRows]
    omega
  have hcreate := Request.create_of_rows query (some (10 * k : Nat)) none none []
  simp only [Option.getD_some, Option.getD_none, hstart, hstop] at hcreate
  exact hcreate

/-- Result lines as a daemon may send them: none is empty or has a NUL. -/
structure Hits (lines : List Bytes) : Prop where
  few : lines.length < 2 ^ 53
  filled : ∀ line ∈ lines, line ≠ []
  no_nul : ∀ line ∈ lines, 0 ∉ line

theorem Hits.writable {lines : List Bytes} (h : Hits lines) {k : Nat}
    (hk : 10 * k < lines.length) (query : Text) :
    Request.hasWritableRows
      { start := (10 * k : Nat), stop := (10 * k + 10 : Nat), query } = true := by
  have hfew := h.few
  have hdigits : 10 ^ 17 ≤ 10 ^ Numeral.maxDigits := Nat.pow_le_pow_right (by decide) (by decide)
  simp only [Request.hasWritableRows, Bool.and_eq_true, Numeral.isWritable_iff,
    Int.natAbs_natCast]
  omega

/-- All lines of a reply are hits. -/
theorem Hits.countHits_frame {r : Reply} (h : Hits r.body) :
    countHits r.frame.body = r.frame.body.length := by
  have hall : ∀ line ∈ r.frame.body, isHitLine line = true := by
    intro line hline
    rcases List.mem_map.1 hline with ⟨octets, hoctets, rfl⟩
    have hempty : (Latin1.decode octets).isEmpty = false := by
      have hfilled := h.filled octets hoctets
      simpa [Latin1.decode, Charset.decode] using hfilled
    have hopen : ['@'].isPrefixOf (Latin1.decode octets) = false := by
      rw [← Bool.not_eq_true, Frame.isPrefixOf_decode]
      exact r.open_body octets hoctets
    rw [isHitLine, hempty, hopen]
    rfl
  rw [countHits, List.takeWhile_eq_self_iff.2 hall]

theorem Hits.legible {lines : List Bytes} (h : Hits lines) (markup : Markup) :
    ∀ line ∈ lines.map Latin1.decode, Record.Legible markup line := by
  intro line hline
  rcases List.mem_map.1 hline with ⟨octets, hoctets, rfl⟩
  refine Record.legible_of_no_nul ?_ markup
  intro hnul
  have hzero := (Charset.mem_decode_iff .latin1 (by decide) octets).1 hnul
  exact h.no_nul octets hoctets hzero

namespace Client

open ResultPage

variable {markup : Markup} {query : Text} {lines : List Bytes} {c d : Client}
variable {k m n : Nat} {page : ResultPage} {pages : List ResultPage}

/-! ## Following links -/

/-- Searches for a query from a row on. -/
def searchAt (markup : Markup) (query : Text) (start : Int) (c : Client) :
    Except Failure ResultPage × Client :=
  match Request.create query (.whole start) .absent none [] with
  | .ok request => c.search markup request
  | .error failure => (.error failure, c)

/-- The terms that are searched for when a caller hands over a query. -/
def termsOf (query : Text) : List Text := Terms.ofQuery (Text.without ['\\'] query)

/-- From a page on a caller follows its link, then that of the page it leads to, and so on until a
page has none: the pages seen on the way, and the client after it. -/
inductive Follow (markup : Markup) (query : Text) (link : ResultPage → Option Int) :
    ResultPage → Client → List ResultPage → Client → Prop
  | stop {page : ResultPage} {c : Client} (hlink : link page = none) :
      Follow markup query link page c [] c
  | step {page next : ResultPage} {c d e : Client} {start : Int} {pages : List ResultPage}
      (hlink : link page = some start)
      (hsearch : c.searchAt markup query start = (.ok next, d))
      (hrest : Follow markup query link next d pages e) :
      Follow markup query link page c (next :: pages) e

/-- There is one way to follow links. -/
theorem Follow.unique {link : ResultPage → Option Int} {pages' : List ResultPage} {d' : Client}
    (h : Follow markup query link page c pages d) (h' : Follow markup query link page c pages' d') :
    pages = pages' ∧ d = d' := by
  induction h generalizing pages' d' with
  | stop hlink =>
    cases h' with
    | stop => exact ⟨rfl, rfl⟩
    | step hlink' =>
      rw [hlink] at hlink'
      cases hlink'
  | step hlink hsearch _ ih =>
    cases h' with
    | stop hlink' =>
      rw [hlink] at hlink'
      cases hlink'
    | step hlink' hsearch' hrest' =>
      rw [hlink] at hlink'
      cases hlink'
      rw [hsearch] at hsearch'
      cases hsearch'
      rcases ih hrest' with ⟨rfl, rfl⟩
      exact ⟨rfl, rfl⟩

/-! ## One position -/

/-- The session is ready, and the daemon answers each of the next `n` requests with the lines and a
status, in time. -/
def Serves (c : Client) (lines : List Bytes) (n : Nat) : Prop :=
  c.phase = .ready ∧ ∃ replies later, Attuned c replies later ∧ replies.length = n ∧
    ∀ r ∈ replies, r.body = lines

/-- A page shows a position of the result lines of a query. -/
def ShowsHits (markup : Markup) (query : Text) (lines : List Bytes) (k : Nat)
    (page : ResultPage) : Prop :=
  Shows markup (termsOf query) (lines.map Latin1.decode) k page

/-- **A search at a position shows it**, and the daemon has one answer less. -/
theorem searchAt_of_serves (hhits : Hits lines) (hterms : termsOf query ≠ [])
    (h : c.Serves lines (n + 1)) (hk : 10 * k < lines.length) (markup : Markup) :
    ∃ page d, c.searchAt markup query (10 * k : Nat) = (.ok page, d) ∧
      ShowsHits markup query lines k page ∧ d.Serves lines n := by
  rcases h with ⟨hready, replies, later, hattuned, hlength, hbody⟩
  cases replies with
  | nil => cases hlength
  | cons r replies =>
    let request : Request :=
      { start := (10 * k : Nat), stop := (10 * k + 10 : Nat), query := Text.without ['\\'] query }
    have hrows : request.hasWritableRows = true := hhits.writable hk _
    have hline : Unbroken (request.lineFor (Terms.ofQuery request.query)) := by
      rw [Request.lineFor_eq_write]
      exact Inquiry.unbroken_write (Request.sound_inquiry hrows hterms)
    rcases execute_of_attuned hattuned hready hline with ⟨hreply, -, hphase, hrest, -⟩
    have hsome : Terms.ofQuery request.query ≠ [] := hterms
    have hsearch := search_of_writable (by rw [ready, hready]; rfl) hsome hrows markup
    have hlines : r.body = lines := hbody r List.mem_cons_self
    subst hlines
    have hsize : r.frame.body.length = r.body.length := List.length_map _
    obtain ⟨page, hpage, hshows⟩ : ∃ page,
        ofReply markup request (Terms.ofQuery request.query) r.frame = .ok page ∧
          Shows markup (Terms.ofQuery request.query) r.frame.body k page :=
      exists_ofReply_of_page rfl rfl hhits.countHits_frame (hhits.legible markup) (hsize ▸ hk)
        (hsize ▸ hhits.few)
    refine ⟨page, _, ?_, hshows, hphase, replies, later, hrest, Nat.succ.inj hlength, ?_⟩
    · rw [searchAt, Request.create_of_page]
      show c.search markup request = _
      rw [hsearch, hreply, hpage]
    · intro r' hr'
      exact hbody r' (List.mem_cons_of_mem r hr')

/-! ## Both directions -/

/-- From the page at position `k` the next links lead to the `m` positions after it, if these are
all there are. -/
theorem exists_follow_next (hhits : Hits lines)
    (hterms : termsOf query ≠ []) (h : c.Serves lines (m + n))
    (hlow : 10 * (k + m) < lines.length) (hhigh : lines.length ≤ 10 * (k + m + 1))
    (hshows : ShowsHits markup query lines k page) :
    ∃ pages d, Follow markup query next? page c pages d ∧
      List.Forall₂ (ShowsHits markup query lines) (List.range' (k + 1) m) pages ∧
      d.Serves lines n := by
  have hlength : (lines.map Latin1.decode).length = lines.length := List.length_map _
  -- by induction on the positions after this one
  induction m generalizing k page c with
  | zero =>
    have hlink : page.next? = none := by
      rw [hshows.next, PageWindow.startAfter, hlength]
      exact if_neg (by omega)
    rw [Nat.zero_add] at h
    exact ⟨[], c, .stop hlink, .nil, h⟩
  | succ m ih =>
    have hlink : page.next? = some (10 * (k + 1) : Nat) := by
      rw [hshows.next, PageWindow.startAfter, hlength]
      exact if_pos (by omega)
    rw [Nat.succ_add] at h
    obtain ⟨next, d, hsearch, hnext, hserves⟩ :=
      searchAt_of_serves hhits hterms h (show 10 * (k + 1) < _ by omega) markup
    obtain ⟨pages, e, hfollow, hpages, hrest⟩ := ih hserves (by omega) (by omega) hnext
    refine ⟨next :: pages, e, .step hlink hsearch hfollow, ?_, hrest⟩
    rw [List.range'_succ]
    exact .cons hnext hpages

/-- From the page at position `k` the previous links lead back through all positions before it. -/
theorem exists_follow_previous (hhits : Hits lines)
    (hterms : termsOf query ≠ []) (h : c.Serves lines (k + n))
    (hk : 10 * k < lines.length)
    (hshows : ShowsHits markup query lines k page) :
    ∃ pages d, Follow markup query previous? page c pages d ∧
      List.Forall₂ (ShowsHits markup query lines) (List.range k).reverse pages ∧
      d.Serves lines n := by
  -- by induction on the position
  induction k generalizing page c with
  | zero =>
    rw [Nat.zero_add] at h
    exact ⟨[], c, .stop hshows.previous, .nil, h⟩
  | succ k ih =>
    rw [Nat.succ_add] at h
    obtain ⟨previous, d, hsearch, hprevious, hserves⟩ :=
      searchAt_of_serves hhits hterms h (show 10 * k < _ by omega) markup
    obtain ⟨pages, e, hfollow, hpages, hrest⟩ := ih hserves (by omega) hprevious
    refine ⟨previous :: pages, e, .step hshows.previous hsearch hfollow, ?_, hrest⟩
    rw [List.range_succ, List.reverse_append]
    exact .cons hprevious hpages

/-! ## Whole result sets -/

theorem starts_of_shows {positions : List Nat}
    (h : List.Forall₂ (ShowsHits markup query lines) positions pages) :
    pages.map ResultPage.start = positions.map fun k => ((10 * k : Nat) : Int) := by
  induction h with
  | nil => rfl
  | cons hshows _ ih => rw [List.map_cons, List.map_cons, hshows.start, ih]

theorem exists_getLast?_of_shows {positions : List Nat}
    (h : List.Forall₂ (ShowsHits markup query lines) (positions ++ [k]) pages) :
    ∃ page, pages.getLast? = some page ∧ ShowsHits markup query lines k page := by
  have hreverse := List.rel_reverse h
  rw [List.reverse_append, List.reverse_singleton, List.singleton_append,
    List.forall₂_cons_left_iff] at hreverse
  rcases hreverse with ⟨page, others, hshows, -, hpages⟩
  refine ⟨page, ?_, hshows⟩
  rw [List.getLast?_eq_head?_reverse, hpages]
  rfl

/-- **Browsing shows every hit once and in order.** A caller who searches from the first row on and
follows the next links of a result set of `n` hits makes as many searches as it has pages of ten,
and the records on them are those of the hits in order. Who then follows the previous links from the
last page on sees the same rows in the opposite order, back to the first one, from which no link
leads further back. -/
theorem browse_every_hit (markup : Markup) (hhits : Hits lines) (hpos : 0 < lines.length)
    (hterms : termsOf query ≠ []) (h : c.Serves lines n)
    (hanswers : 2 * ((lines.length + 9) / 10) ≤ n + 1) :
    ∃ first d rest e,
      c.searchAt markup query 0 = (.ok first, d) ∧ Follow markup query next? first d rest e ∧
        (first :: rest).length = (lines.length + 9) / 10 ∧
        (lines.map Latin1.decode).mapM (Record.ofLine markup (termsOf query)) =
          .ok ((first :: rest).flatMap ResultPage.records) ∧
        ∃ last back f, (first :: rest).getLast? = some last ∧
          Follow markup query previous? last e back f ∧
          (last :: back).map ResultPage.start = ((first :: rest).map ResultPage.start).reverse ∧
          ∃ final, (last :: back).getLast? = some final ∧ final.start = 0 ∧
            final.previous? = none := by
  -- `m` pages follow the first one, and as many searches lead back
  obtain ⟨m, hm⟩ : ∃ m, (lines.length + 9) / 10 = m + 1 := ⟨(lines.length + 9) / 10 - 1, by omega⟩
  obtain ⟨spare, rfl⟩ : ∃ spare, n = m + (m + spare) + 1 := ⟨n - (2 * m + 1), by omega⟩
  obtain ⟨first, d, hsearch, hfirst, hserves⟩ :=
    searchAt_of_serves hhits hterms h (show 10 * 0 < _ by omega) markup
  obtain ⟨rest, e, hfollow, hrest, hserves⟩ :=
    exists_follow_next hhits hterms hserves (by omega) (by omega) hfirst
  have hall : List.Forall₂ (ShowsHits markup query lines) (List.range (m + 1)) (first :: rest) := by
    rw [List.range_eq_range', List.range'_succ]
    exact .cons hfirst hrest
  have hlast := hall
  rw [List.range_succ] at hlast
  obtain ⟨last, hgetLast, hshows⟩ := exists_getLast?_of_shows hlast
  obtain ⟨back, f, hreturn, hback, -⟩ :=
    exists_follow_previous hhits hterms hserves (by omega) hshows
  have hboth : List.Forall₂ (ShowsHits markup query lines) (List.range (m + 1)).reverse
      (last :: back) := by
    rw [List.range_succ, List.reverse_append]
    exact .cons hshows hback
  refine ⟨first, d, rest, e, hsearch, hfollow, ?_, ?_, last, back, f, hgetLast, hreturn, ?_, ?_⟩
  · rw [← hall.length_eq, List.length_range, hm]
  · have hrecords := ResultPage.mapM_of_shows hall
    rw [List.take_of_length_le (by rw [List.length_map]; omega)] at hrecords
    exact hrecords
  · rw [starts_of_shows hboth, starts_of_shows hall, List.map_reverse]
  · have hends := hboth
    rw [List.range_eq_range', List.range'_succ, List.reverse_cons] at hends
    obtain ⟨final, hfinal, hshows⟩ := exists_getLast?_of_shows hends
    exact ⟨final, hfinal, hshows.start, hshows.previous⟩

/-- Eleven hits: two searches there, and one back. -/
theorem browse_every_hit_sample :
    let r : Reply := { body := List.replicate 11 [97], status := [64, 48] }
    let account : Account :=
      { host := "localhost".toList, port := 1234, username := "anna".toList, password := []
        connectTimeout := none, readTimeout := some (.ofInt 30) }
    let c : Client :=
      { account, network := { daemon := { turns := [r.turn, r.turn, r.turn] } }, phase := .ready }
    ∃ first d rest e, c.searchAt .html ['x'] 0 = (.ok first, d) ∧
      Follow .html ['x'] next? first d rest e ∧ (first :: rest).length = 2 ∧
      ((first :: rest).flatMap ResultPage.records).length = 11 := by
  intro r account c
  have hhits : Hits (List.replicate 11 [97]) := ⟨by decide, by decide, by decide⟩
  have hserves : c.Serves (List.replicate 11 [97]) 3 := by
    refine ⟨rfl, [r, r, r], [], ⟨rfl, rfl, by decide +kernel⟩, rfl, ?_⟩
    intro r' hr'
    have heq : r' = r := by simpa using hr'
    rw [heq]
  have hterms : termsOf ['x'] ≠ [] := by decide +kernel
  obtain ⟨first, d, rest, e, hsearch, hfollow, hlength, hrecords, -⟩ :=
    browse_every_hit .html hhits (by decide) hterms hserves (by decide)
  refine ⟨first, d, rest, e, hsearch, hfollow, hlength, ?_⟩
  exact (Outcome.mapM_eq_ok_iff.1 hrecords).length_eq.symm

end Client
end SearchClient
