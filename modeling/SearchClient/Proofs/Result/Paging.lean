import SearchClient.Proofs.Result.Windows

/-!
# Pages of one body

What the pages of a result set show when each is asked for with the same hits behind it. The page at
position `k` starts at row `10 * k` and shows the next ten rows (`ResultPage.chunk`); its links lead
to the positions after and before it (`ResultPage.Shows`). The previous link goes through a rounded
quotient, which is exact as long as the rows are below `2 ^ 53`.

The chunks in order are the whole body (`ResultPage.flatMap_chunk`), so pages that show the
positions from the first to the last show every row once.
-/

namespace SearchClient

/-! ## Links -/

namespace PageWindow

variable {k n : Nat}

theorem fdiv_pageSize (x : Int) : Int.fdiv x pageSize = x / 10 :=
  Int.fdiv_eq_ediv_of_nonneg x (by decide)

/-- The current page is the one that has the first row, and the last one has the last row. -/
theorem current_around (total start : Int) (previous : Option Int) :
    (around total start previous).current = start / 10 + 1 := by
  rw [← fdiv_pageSize]
  rfl

theorem maxPage_around (total start : Int) (previous : Option Int) :
    (around total start previous).maxPage = -(-total / 10) := by
  rw [← fdiv_pageSize]
  rfl

/-- The start of the page before position `k`, if there is one. -/
def startBefore (k : Nat) : Option Int := if k = 0 then none else some (10 * (k - 1) : Nat)

/-- The start of the page after position `k`, if `n` rows reach it. -/
def startAfter (n k : Nat) : Option Int :=
  if 10 * (k + 1) < n then some (10 * (k + 1) : Nat) else none

/-- The previous link of position `k` leads to the position before it. -/
theorem previousOf_of_page (hk : 10 * k < 2 ^ 53) :
    previousOf (Int.fdiv (10 * k : Nat) pageSize + 1) (10 * k : Nat) pageSize =
      .ok (startBefore k) := by
  have hsize : pageSize = 10 := rfl
  have hten : (0 : Int) < 10 := by decide
  rw [fdiv_pageSize, hsize, startBefore]
  cases k with
  | zero => exact previousOf_of_lt hten (by decide)
  | succ k =>
    have hrow : 10 * (((10 * (k + 1) : Nat) - (10 - 1) : Int) / 10) = (10 * (k + 1 - 1) : Nat) := by
      omega
    rw [previousOf_of_le hten (by omega) (by omega), hrow, if_neg (Nat.succ_ne_zero k)]

theorem nextStart_around (k n : Nat) (previous : Option Int) :
    (around n (10 * k : Nat) previous).nextStart = startAfter n k := by
  let w := around n (10 * k : Nat) previous
  have hlink : w.nextStart = if w.current < w.maxPage then some (w.current * pageSize) else none := rfl
  have hsize : pageSize = 10 := rfl
  rw [hlink, current_around, maxPage_around, hsize, startAfter]
  by_cases hmore : 10 * (k + 1) < n
  · rw [if_pos hmore, if_pos (by omega)]
    congr 1
    omega
  · rw [if_neg hmore, if_neg (by omega)]

end PageWindow

namespace ResultPage

/-! ## Rows -/

section Rows

variable {α : Type} (xs : List α) (k m : Nat)

/-- The rows that the page at position `k` shows. -/
def chunk : List α := (xs.drop (10 * k)).take 10

theorem position_natCast (length index : Nat) : position length index = min index length := by
  rw [position, if_neg (Int.natCast_nonneg index).not_gt, Int.toNat_natCast]

/-- Positions behind the end are cut to it, which changes no stretch of the list. -/
theorem slice_natCast (a b : Nat) : slice a b xs = (xs.take b).drop a := by
  rw [slice, position_natCast, position_natCast, ← List.take_eq_take_min]
  refine List.drop_eq_drop_iff.2 ?_
  rw [List.length_take]
  omega

theorem slice_chunk :
    slice (10 * k : Nat) (min (10 * k + 10 : Nat) xs.length) xs = chunk xs k := by
  have hcast : min ((10 * k + 10 : Nat) : Int) xs.length = (min (10 * k + 10) xs.length : Nat) := by
    omega
  rw [hcast, slice_natCast, ← List.take_eq_take_min, List.drop_take, Nat.add_sub_cancel_left, chunk]

/-- **The chunks in order are the rows in order.** -/
theorem flatMap_chunk : (List.range m).flatMap (chunk xs) = xs.take (10 * m) := by
  induction m with
  | zero => rfl
  | succ m ih =>
    calc
      (List.range (m + 1)).flatMap (chunk xs)
          = (List.range m).flatMap (chunk xs) ++ chunk xs m := by
            rw [List.range_succ, List.flatMap_append, List.flatMap_singleton]
      _ = xs.take (10 * m) ++ (xs.drop (10 * m)).take 10 := by rw [ih, chunk]
      _ = xs.take (10 * (m + 1)) := List.take_add.symm

end Rows

/-! ## Positions -/

def next? (page : ResultPage) : Option Int := page.window.bind PageWindow.nextStart

def previous? (page : ResultPage) : Option Int := page.window.bind PageWindow.previousStart

variable {markup : Markup} {terms : List Text} {body : List Text} {k m : Nat} {page : ResultPage}

/-- A page shows position `k` of a body: its rows start there, its records are those of the rows,
and its links lead to the positions next to it, as far as there are any. -/
structure Shows (markup : Markup) (terms : List Text) (body : List Text) (k : Nat)
    (page : ResultPage) : Prop where
  start : page.start = (10 * k : Nat)
  records : (chunk body k).mapM (Record.ofLine markup terms) = .ok page.records
  next : page.next? = PageWindow.startAfter body.length k
  previous : page.previous? = PageWindow.startBefore k

/-- A page has the window of its position, or it is the only one. -/
theorem exists_windowOf_of_page {n : Nat} (hk : 10 * k < n) (hn : n < 2 ^ 53) :
    ∃ window, windowOf n (10 * k : Nat) = .ok window ∧
      window.bind PageWindow.nextStart = PageWindow.startAfter n k ∧
      window.bind PageWindow.previousStart = PageWindow.startBefore k := by
  by_cases hmany : pageSize < n
  · have hwindow : PageWindow.forHits n (10 * k : Nat) =
        .ok (.around n (10 * k : Nat) (PageWindow.startBefore k)) :=
      PageWindow.forHits_eq_ok_iff.2 ⟨_, PageWindow.previousOf_of_page (by omega), rfl⟩
    refine ⟨some _, ?_, PageWindow.nextStart_around k n _, rfl⟩
    rw [windowOf, if_pos hmany, hwindow]
    rfl
  · have hsize : pageSize = 10 := rfl
    have hfirst : PageWindow.startBefore k = none := if_pos (by omega)
    have hlast : PageWindow.startAfter n k = none := if_neg (by omega)
    refine ⟨none, ?_, hlast.symm, hfirst.symm⟩
    rw [windowOf, if_neg hmany]
    rfl

/-- **The reply to a page's request shows its position.** -/
theorem exists_ofReply_of_page {request : Request} {frame : Frame}
    (hstart : request.start = (10 * k : Nat)) (hstop : request.stop = (10 * k + 10 : Nat))
    (hhits : countHits frame.body = frame.body.length)
    (hlegible : ∀ line ∈ frame.body, Record.Legible markup line)
    (hk : 10 * k < frame.body.length) (hn : frame.body.length < 2 ^ 53) :
    ∃ page, ofReply markup request terms frame = .ok page ∧
      Shows markup terms frame.body k page := by
  have hrows : rows request frame.body = chunk frame.body k := by
    rw [rows, hstart, hstop, hhits]
    exact slice_chunk frame.body k
  obtain ⟨records, hrecords⟩ : ∃ records,
      (chunk frame.body k).mapM (Record.ofLine markup terms) = .ok records := by
    refine Outcome.exists_mapM_iff.2 ?_
    intro line hline
    exact Record.exists_ofLine_iff.2
      (hlegible line (List.mem_of_mem_drop (List.mem_of_mem_take hline)))
  obtain ⟨window, hwindow, hnext, hprevious⟩ := exists_windowOf_of_page hk hn
  refine ⟨_, ofReply_eq_ok_iff.2 ⟨records, window, ?_, ?_, rfl⟩, ?_⟩
  · rw [hrows]
    exact hrecords
  · rw [hhits, hstart]
    exact hwindow
  · exact ⟨hstart, hrecords, hnext, hprevious⟩

/-- **Pages that show the positions from the first on show the rows from the first on**, each once
and in order. -/
theorem mapM_of_shows {pages : List ResultPage}
    (h : List.Forall₂ (Shows markup terms body) (List.range m) pages) :
    (body.take (10 * m)).mapM (Record.ofLine markup terms) =
      .ok (pages.flatMap ResultPage.records) := by
  rw [← flatMap_chunk]
  generalize List.range m = positions at h
  induction h with
  | nil => rfl
  | cons hshows _ ih => exact Outcome.mapM_append hshows.records ih

end ResultPage
end SearchClient
