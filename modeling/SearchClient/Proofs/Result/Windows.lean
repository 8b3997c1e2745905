import Mathlib.Data.List.Range
import Mathlib.Order.Bounds.Defs
import SearchClient.Proofs.Number.Nearest
import SearchClient.Proofs.Result.Legible

/-!
# Page windows

A window offers the pages around the one that shows a given row, and links to the page before and to
the page after it. Below row `2 ^ 53` every window is found, for pages of any size.

1. `PageWindow.compute_navigable` says what a window is good for: its current page has the row, its
   last page is the least one that reaches the last hit, the pages offered are a run of numbers around
   the current one, the links lead somewhere if and only if there is a page, and every hit is on
   exactly one page. The numbers are listed as long as they can be counted
   (`PageWindow.endless_span_not_listed`);
2. `PageWindow.previous_start_exact` says which row the previous link has, although the quotient
   behind it is rounded;
3. `PageWindow.previous_link_leads_back` says that this row begins the page before, unless the window
   is around the last row of a page (`PageWindow.previous_link_of_last_row`).
-/

namespace SearchClient
namespace PageWindow

variable {total start size span lookback page row : Int} {previous : Option Int} {w : PageWindow}

/-! ## Page numbers -/

section Pages

theorem length_pages (w : PageWindow) : w.pages.length = w.count := by
  rw [pages, List.length_map, List.length_range]

theorem getElem?_pages {i : Nat} (h : i < w.count) : w.pages[i]? = some (w.first + i) := by
  rw [pages, List.getElem?_map, List.getElem?_range h]
  rfl

theorem mem_pages_iff : page ∈ w.pages ↔ w.first ≤ page ∧ page ≤ w.last := by
  simp only [pages, List.mem_map, List.mem_range, count]
  constructor
  · rintro ⟨k, hk, rfl⟩
    omega
  · rintro ⟨hfirst, hlast⟩
    exact ⟨(page - w.first).toNat, by omega, by omega⟩

theorem isChain_pages (w : PageWindow) : w.pages.IsChain fun page next => next = page + 1 := by
  rw [pages, List.isChain_map, List.isChain_range]
  intro k _
  rw [Nat.succ_eq_add_one]
  omega

/-- The numbers are listed exactly if they can be counted. -/
theorem listPages_eq_ok_iff : w.listPages = .ok w.pages ↔ w.pages.length ≤ maxCount := by
  rw [length_pages, listPages]
  split
  · exact iff_of_false nofun (by omega)
  · exact iff_of_true rfl (by omega)

end Pages

/-! ## Rows and pages -/

section Rows

variable (hsize : 0 < size)

include hsize

/-- The page that has a row. -/
theorem page_has_row_iff :
    (page - 1) * size ≤ row ∧ row < page * size ↔ page = row / size + 1 := by
  rw [← Int.le_ediv_iff_mul_le hsize, ← Int.ediv_lt_iff_lt_mul hsize]
  omega

/-- The least page that reaches a number of rows. -/
theorem maxPage_le_iff : -(-total / size) ≤ page ↔ total ≤ page * size := by
  have hflip : -page * size ≤ -total ↔ total ≤ page * size := by
    rw [Int.neg_mul]
    omega
  rw [← hflip, ← Int.le_ediv_iff_mul_le hsize]
  omega

/-! ## The previous link -/

/-- Below `2 ^ 53` the whole part of a rounded quotient is the whole part of the exact one. -/
theorem roundedQuotient_of_lt {x : Int} (hx : 0 ≤ x) (hlt : x < 2 ^ 53) :
    roundedQuotient x size = .ok (x / size) := by
  obtain ⟨n, rfl⟩ := Int.eq_ofNat_of_zero_le hx
  obtain ⟨m, rfl⟩ := Int.eq_ofNat_of_zero_le hsize.le
  rw [roundedQuotient_eq_ok_iff, Binary64.truncate?_ofRatio (by omega) (by omega)]
  rfl

theorem previousOf_of_lt (hstart : start < size) :
    previousOf (start / size + 1) start size = .ok none := by
  have hpage : start / size < 1 := by
    rw [Int.ediv_lt_iff_lt_mul hsize, Int.one_mul]
    exact hstart
  rw [previousOf, if_neg (by omega)]

theorem previousOf_of_le (hstart : size ≤ start) (hrow : start < 2 ^ 53) :
    previousOf (start / size + 1) start size =
      .ok (some (size * ((start - (size - 1)) / size))) := by
  have hpage : 1 ≤ start / size := by
    rw [Int.le_ediv_iff_mul_le hsize, Int.one_mul]
    exact hstart
  have hquotient := roundedQuotient_of_lt hsize (x := start - (size - 1)) (by omega) (by omega)
  have hnonneg : 0 ≤ (start - (size - 1)) / size * size :=
    Int.mul_nonneg (Int.ediv_nonneg (by omega) hsize.le) hsize.le
  rw [previousOf, if_pos (by omega), hquotient, Int.mul_comm size]
  show Except.ok (some (max 0 _)) = _
  rw [max_eq_right hnonneg]

/-- Every row below `2 ^ 53` has a previous link or is on the first page. -/
theorem exists_previousOf (hstart : 0 ≤ start) (hrow : start < 2 ^ 53) :
    ∃ previous, previousOf (start / size + 1) start size = .ok previous ∧
      (previous = none ↔ start / size + 1 = 1) := by
  rcases Int.lt_or_le start size with hlt | hle
  · refine ⟨none, previousOf_of_lt hsize hlt, iff_of_true rfl ?_⟩
    rw [Int.ediv_eq_zero_of_lt hstart hlt, Int.zero_add]
  · refine ⟨_, previousOf_of_le hsize hle hrow, iff_of_false (Option.some_ne_none _) ?_⟩
    have hpage : 1 ≤ start / size := by
      rw [Int.le_ediv_iff_mul_le hsize, Int.one_mul]
      exact hle
    omega

end Rows

/-! ## Windows around a row -/

/-- The window around row `start` of `total` hits, once its previous link is known. -/
def spread (total start size span lookback : Int) (previous : Option Int) : PageWindow :=
  let current := start / size + 1
  let maxPage := -(-total / size)
  let first := max 1 (current - lookback)
  { current, maxPage, first, size
    last := min maxPage (first + span - 1)
    previousStart := previous
    nextStart := if current < maxPage then some (current * size) else none }

theorem compute_of_previous (total span lookback : Int) (hsize : 0 < size)
    (h : previousOf (start / size + 1) start size = .ok previous) :
    compute total start size span lookback =
      .ok (spread total start size span lookback previous) := by
  have hfloor : ∀ x : Int, Int.fdiv x size = x / size := fun x =>
    Int.fdiv_eq_ediv_of_nonneg x hsize.le
  simp only [compute, hsize.ne', if_false, hfloor, h]
  rfl

/-- A window can be navigated by: it shows the row, it offers pages around it, and every hit is on one
of the pages. -/
structure Navigable (total start size span lookback : Int) (w : PageWindow) : Prop where
  size_eq : w.size = size
  /-- The current page has the row. -/
  current_has_row : (w.current - 1) * size ≤ start ∧ start < w.current * size
  /-- The last page is the least one that reaches the last hit. -/
  maxPage_least : IsLeast {page | total ≤ page * size} w.maxPage
  /-- The pages offered are a run of numbers, each of a page that there is. -/
  consecutive : w.pages.IsChain fun page next => next = page + 1
  within : ∀ page ∈ w.pages, 1 ≤ page ∧ page ≤ w.maxPage
  length_le : w.pages.length ≤ span
  /-- The numbers are listed exactly if they can be counted. -/
  listed_iff : w.listPages = .ok w.pages ↔ w.pages.length ≤ maxCount
  /-- The current page is offered, behind no more pages than are looked back on. -/
  offers_current : start < total → lookback < span →
    ∃ i : Nat, i ≤ lookback ∧ w.pages[i]? = some w.current
  /-- There is a next link exactly if there is a page after the current one, and it leads to its
  first row. -/
  next_none_iff : w.nextStart = none ↔ w.maxPage ≤ w.current
  next_eq : ∀ row, w.nextStart = some row →
    row = (w.offsets (w.current + 1)).1 ∧ start < row ∧ row < total
  /-- There is a previous link exactly if there is a page before the current one. -/
  previous_none_iff : w.previousStart = none ↔ w.current = 1
  /-- The pages, cut at the last hit, are not empty and part the hits among them. -/
  page_filled : ∀ page, 1 ≤ page → page ≤ w.maxPage →
    0 ≤ (w.offsets page).1 ∧ (w.offsets page).1 < min (w.offsets page).2 total
  page_of_row : ∀ row, 0 ≤ row → row < total →
    ∃! page, (1 ≤ page ∧ page ≤ w.maxPage) ∧
      (w.offsets page).1 ≤ row ∧ row < min (w.offsets page).2 total

section Spread

@[simp] theorem current_spread :
    (spread total start size span lookback previous).current = start / size + 1 := rfl

@[simp] theorem maxPage_spread :
    (spread total start size span lookback previous).maxPage = -(-total / size) := rfl

@[simp] theorem first_spread :
    (spread total start size span lookback previous).first =
      max 1 (start / size + 1 - lookback) := rfl

@[simp] theorem last_spread :
    (spread total start size span lookback previous).last =
      min (-(-total / size)) (max 1 (start / size + 1 - lookback) + span - 1) := rfl

@[simp] theorem nextStart_spread :
    (spread total start size span lookback previous).nextStart =
      if start / size + 1 < -(-total / size) then some ((start / size + 1) * size) else none := rfl

@[simp] theorem offsets_spread :
    (spread total start size span lookback previous).offsets page =
      ((page - 1) * size, page * size) := rfl

theorem within_spread :
    ∀ page ∈ (spread total start size span lookback previous).pages,
      1 ≤ page ∧ page ≤ -(-total / size) := by
  intro page hpage
  rw [mem_pages_iff, first_spread, last_spread] at hpage
  omega

theorem length_pages_spread (hspan : 0 ≤ span) :
    (spread total start size span lookback previous).pages.length ≤ span := by
  rw [length_pages, count, first_spread, last_spread]
  omega

variable (hsize : 0 < size)

include hsize

/-- A page up to the last one begins before the last hit. -/
theorem lt_of_le_maxPage (hpage : page ≤ -(-total / size)) : (page - 1) * size < total := by
  by_contra hbehind
  have hleast := (maxPage_le_iff hsize).2 (Int.not_lt.1 hbehind)
  omega

/-- The page of a hit is not behind the last one. -/
theorem page_le_maxPage (hrow : row < total) : row / size + 1 ≤ -(-total / size) := by
  by_contra hbehind
  have hreached : total ≤ row / size * size := (maxPage_le_iff hsize).1 (by omega)
  have hbegins := Int.ediv_mul_le row hsize.ne'
  omega

theorem offers_current_spread (hstart : 0 ≤ start) (hlookback : 0 ≤ lookback) (hhit : start < total)
    (hspan : lookback < span) :
    ∃ i : Nat, i ≤ lookback ∧
      (spread total start size span lookback previous).pages[i]? = some (start / size + 1) := by
  have hpage : 0 ≤ start / size := Int.ediv_nonneg hstart hsize.le
  have hreach : start / size + 1 ≤ -(-total / size) := page_le_maxPage hsize hhit
  -- as many pages are offered before it as are looked back on, or as there are
  refine ⟨(start / size + 1 - max 1 (start / size + 1 - lookback)).toNat, by omega, ?_⟩
  rw [getElem?_pages, first_spread]
  · congr 1
    omega
  · rw [count, first_spread, last_spread]
    omega

theorem next_spread :
    ((spread total start size span lookback previous).nextStart = none ↔
      -(-total / size) ≤ start / size + 1) ∧
      ∀ row, (spread total start size span lookback previous).nextStart = some row →
        row = (start / size + 1 + 1 - 1) * size ∧ start < row ∧ row < total := by
  rw [nextStart_spread]
  split
  · rename_i hmore
    refine ⟨iff_of_false (Option.some_ne_none _) (Int.not_le.2 hmore), ?_⟩
    intro row hrow
    cases hrow
    have hbehind := Int.lt_ediv_add_one_mul_self start hsize
    have hbegins : (start / size + 1 + 1 - 1) * size < total := lt_of_le_maxPage hsize hmore
    rw [Int.add_sub_cancel] at hbegins ⊢
    exact ⟨rfl, hbehind, hbegins⟩
  · rename_i hlast
    refine ⟨iff_of_true rfl (Int.not_lt.1 hlast), ?_⟩
    intro row hrow
    cases hrow

/-- **A window with a previous link, or with none on the first page, can be navigated by.** -/
theorem navigable_spread (hstart : 0 ≤ start) (hspan : 0 ≤ span) (hlookback : 0 ≤ lookback)
    (hprevious : previous = none ↔ start / size + 1 = 1) :
    Navigable total start size span lookback
      (spread total start size span lookback previous) where
  size_eq := rfl
  current_has_row := (page_has_row_iff hsize).2 rfl
  maxPage_least := by
    refine ⟨(maxPage_le_iff hsize).1 le_rfl, ?_⟩
    intro page hpage
    exact (maxPage_le_iff hsize).2 hpage
  consecutive := isChain_pages _
  within := within_spread
  length_le := length_pages_spread hspan
  listed_iff := listPages_eq_ok_iff
  offers_current := offers_current_spread hsize hstart hlookback
  next_none_iff := (next_spread hsize).1
  next_eq := (next_spread hsize).2
  previous_none_iff := hprevious
  page_filled := by
    intro page hfirst hlast
    have hbegins := lt_of_le_maxPage hsize hlast
    -- products are beyond `omega`, which is given their signs and one equation
    have hnonneg : 0 ≤ (page - 1) * size := Int.mul_nonneg (by omega) hsize.le
    have hform : page * size = (page - 1) * size + size := by
      rw [Int.sub_mul]
      omega
    rw [offsets_spread]
    dsimp only
    omega
  page_of_row := by
    intro row hrow hhit
    have hpage : 0 ≤ row / size := Int.ediv_nonneg hrow hsize.le
    have hhas : (row / size + 1 - 1) * size ≤ row ∧ row < (row / size + 1) * size :=
      (page_has_row_iff hsize).2 rfl
    simp only [offsets_spread, maxPage_spread]
    refine ⟨row / size + 1, ⟨⟨by omega, page_le_maxPage hsize hhit⟩, hhas.1, by omega⟩, ?_⟩
    rintro other ⟨-, hbegins, hends⟩
    exact (page_has_row_iff hsize).1 ⟨hbegins, by omega⟩

end Spread

/-- **What a window is good for.** Below row `2 ^ 53` there is a window around every row, for pages of
any size and any number of them, and it can be navigated by. -/
theorem compute_navigable (total : Int) (hsize : 1 ≤ size) (hstart : 0 ≤ start)
    (hrow : start < 2 ^ 53) (hspan : 1 ≤ span) (hlookback : 0 ≤ lookback) :
    ∃ w, compute total start size span lookback = .ok w ∧
      Navigable total start size span lookback w := by
  have hpos : 0 < size := by omega
  obtain ⟨previous, hprevious, hfirst⟩ := exists_previousOf hpos hstart hrow
  exact ⟨_, compute_of_previous total span lookback hpos hprevious,
    navigable_spread hpos hstart (by omega) hlookback hfirst⟩

/-- The page of row 215 of 237 hits is the 22nd of 24 pages of ten. -/
theorem compute_navigable_sample :
    (1 : Int) ≤ 10 ∧ (0 : Int) ≤ 215 ∧ (215 : Int) < 2 ^ 53 ∧ (1 : Int) ≤ 9 ∧ (0 : Int) ≤ 4 ∧
      ∃ w, compute 237 215 10 9 4 = .ok w ∧ w.current = 22 ∧ w.maxPage = 24 ∧
        (∃ i : Nat, i ≤ 4 ∧ w.pages[i]? = some 22) ∧ w.listPages = .ok w.pages ∧
        w.nextStart = some 220 := by
  refine ⟨by decide, by decide, by decide, by decide, by decide, ?_⟩
  obtain ⟨w, hw, h⟩ := compute_navigable 237 (by decide : (1 : Int) ≤ 10)
    (by decide : (0 : Int) ≤ 215) (by decide) (by decide : (1 : Int) ≤ 9) (by decide : (0 : Int) ≤ 4)
  have hcurrent : w.current = 22 := by
    have hrow := h.current_has_row
    omega
  have hmax : w.maxPage = 24 := by
    have hreach : 237 ≤ w.maxPage * 10 := h.maxPage_least.1
    have hleast : w.maxPage ≤ 24 := h.maxPage_least.2 (by decide : (237 : Int) ≤ 24 * 10)
    omega
  have hlisted : w.pages.length ≤ maxCount := by
    have hfew := h.length_le
    have hroom : 9 ≤ maxCount := by decide
    omega
  obtain ⟨i, hi, hoffered⟩ := h.offers_current (by decide) (by decide)
  rw [hcurrent] at hoffered
  obtain ⟨row, hnext⟩ : ∃ row, w.nextStart = some row := by
    refine Option.ne_none_iff_exists'.1 fun hnone => ?_
    have hlast := h.next_none_iff.1 hnone
    omega
  have hrow : row = 220 := by
    have hleads := (h.next_eq row hnext).1
    rw [offsets, h.size_eq, hcurrent] at hleads
    omega
  rw [hrow] at hnext
  exact ⟨w, hw, hcurrent, hmax, ⟨i, by omega, hoffered⟩, h.listed_iff.2 hlisted, hnext⟩

/-- A span of `2 ^ 63` pages is offered in full by as many hits in pages of one, but so many numbers
are not listed. -/
theorem endless_span_not_listed :
    (0 : Int) ≤ 2 ^ 63 ∧ (1 : Int) ≤ 2 ^ 63 ∧
      ∃ w, compute (2 ^ 63) 0 1 (2 ^ 63) 0 = .ok w ∧ w.listPages = .error .pagesUncountable := by
  refine ⟨by decide, by decide, _, rfl, ?_⟩
  decide

/-! ## Where the previous link leads -/

/-- **The rounding behind the previous link loses nothing.** From the second page on and below row
`2 ^ 53` there is a window around every row, for pages of any size. The quotient behind its previous
link is correctly rounded and then loses its fraction, and the row that comes of it is the one that
comes of the exact quotient: a multiple of the page size, and not behind the row. -/
theorem previous_start_exact (hsize : 1 ≤ size) (hstart : size ≤ start) (hrow : start < 2 ^ 53)
    (total span lookback : Int) :
    ∃ units w row,
      Binary64.ofRatio (start - (size - 1)) size = .finite false units ∧
        Binary64.Nearest ((start - (size - 1)).toNat * Binary64.unitsPerOne) size.toNat units ∧
        compute total start size span lookback = .ok w ∧ w.previousStart = some row ∧
        row = (units / Binary64.unitsPerOne : Nat) * size ∧
        row = size * ((start - (size - 1)) / size) ∧
        size ∣ row ∧ 0 ≤ row ∧ row ≤ start := by
  have hpos : 0 < size := by omega
  obtain ⟨n, hn⟩ := Int.eq_ofNat_of_zero_le (show 0 ≤ start - (size - 1) by omega)
  obtain ⟨m, rfl⟩ := Int.eq_ofNat_of_zero_le hpos.le
  have hwithin : n < m * Binary64.overflow := by
    have hlarge := Binary64.two_pow_53_lt_overflow
    have hle : 1 * Binary64.overflow ≤ m * Binary64.overflow := Nat.mul_le_mul_right _ (by omega)
    omega
  obtain ⟨units, hquotient, hnearest⟩ := Binary64.exists_nearest_ofRatio hwithin
  have hwhole : units / Binary64.unitsPerOne = n / m := by
    have hexact := Binary64.truncate?_ofRatio (x := n) (y := m) (by omega) (by omega)
    rw [hquotient] at hexact
    exact Int.ofNat.inj (Option.some.inj hexact)
  -- the link is known by the exact quotient, and the rounded one is compared with it
  have hwindow := compute_of_previous total span lookback hpos (previousOf_of_le hpos hstart hrow)
  have hfloor : (m : Int) * ((n : Int) / m) ≤ n := Int.mul_ediv_self_le hpos.ne'
  rw [hn] at hwindow
  rw [hn, Int.toNat_natCast, Int.toNat_natCast]
  refine ⟨units, _, _, hquotient, hnearest, hwindow, rfl, ?_, rfl, Int.dvd_mul_right _ _, ?_, ?_⟩
  · rw [hwhole, Int.mul_comm]
    rfl
  · exact Int.mul_nonneg hpos.le (Int.ediv_nonneg (by omega) hpos.le)
  · omega

/-- Row 99 in pages of seven: the quotient is 93 by 7, which no number of the format is. -/
theorem previous_start_exact_sample :
    (1 : Int) ≤ 7 ∧ (7 : Int) ≤ 99 ∧ (99 : Int) < 2 ^ 53 ∧
      ∃ w, compute 500 99 7 9 4 = .ok w ∧ w.previousStart = some 91 := by
  refine ⟨by decide, by decide, by decide, ?_⟩
  obtain ⟨-, w, row, -, -, hw, hprevious, -, hrow, -⟩ :=
    previous_start_exact (by decide : (1 : Int) ≤ 7) (by decide : (7 : Int) ≤ 99) (by decide) 500 9 4
  have hexact : row = 91 := by rw [hrow]; decide
  rw [hexact] at hprevious
  exact ⟨w, hw, hprevious⟩

/-- **Which page the previous link leads to.** From the second page on and below row `2 ^ 53` a window
of the usual size has a previous link. It leads to the first row of the page before the current one, so
that the window there is around an earlier page, unless the row is the last one of its page. From such
a row it leads to the first row of the same page. -/
theorem previous_link_leads_back (total : Int) (hstart : 10 ≤ start) (hrow : start < 2 ^ 53) :
    ∃ w row there,
      forHits total start = .ok w ∧ w.previousStart = some row ∧ forHits total row = .ok there ∧
        (start % 10 ≠ 9 →
          row = (w.offsets (w.current - 1)).1 ∧ there.current = w.current - 1) ∧
        (start % 10 = 9 → row = (w.offsets w.current).1 ∧ there.current = w.current) := by
  have hten : (0 : Int) < 10 := by decide
  have hsize : pageSize = 10 := rfl
  -- the row is named, so that the window there is one around a row like any other
  obtain ⟨row, hr⟩ : ∃ row, 10 * ((start - (10 - 1)) / 10) = row := ⟨_, rfl⟩
  have hlink : previousOf (start / 10 + 1) start 10 = .ok (some row) := by
    rw [← hr]
    exact previousOf_of_le hten hstart hrow
  obtain ⟨previous, hprevious, -⟩ : ∃ previous, previousOf (row / 10 + 1) row 10 = .ok previous ∧
      (previous = none ↔ row / 10 + 1 = 1) := exists_previousOf hten (by omega) (by omega)
  refine ⟨_, row, _, compute_of_previous total defaultSpan defaultLookback hten hlink, rfl,
    compute_of_previous total defaultSpan defaultLookback hten hprevious, ?_, ?_⟩
  · intro hinner
    rw [offsets_spread, current_spread, current_spread, hsize]
    dsimp only
    omega
  · intro hlast
    rw [offsets_spread, current_spread, current_spread, hsize]
    dsimp only
    omega

/-- From row 45 the previous link leads to row 30. -/
theorem previous_link_leads_back_sample :
    (10 : Int) ≤ 45 ∧ (45 : Int) < 2 ^ 53 ∧
      ∃ w, forHits 237 45 = .ok w ∧ w.previousStart = some (w.offsets (w.current - 1)).1 := by
  refine ⟨by decide, by decide, ?_⟩
  obtain ⟨w, row, _, hw, hprevious, -, hleads, -⟩ :=
    previous_link_leads_back 237 (by decide : (10 : Int) ≤ 45) (by decide)
  rw [(hleads (by decide)).1] at hprevious
  exact ⟨w, hw, hprevious⟩

/-- From row 49 the previous link leads to row 40, which is on the same page. -/
theorem previous_link_of_last_row :
    ∃ w, forHits 237 49 = .ok w ∧ w.previousStart = some 40 ∧ (w.offsets (w.current - 1)).1 = 30 := by
  have hten : (0 : Int) < 10 := by decide
  exact ⟨_, compute_of_previous 237 defaultSpan defaultLookback hten
    (previousOf_of_le hten (by decide) (by decide)), rfl, rfl⟩

end PageWindow
end SearchClient
