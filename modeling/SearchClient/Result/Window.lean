import SearchClient.Failure
import SearchClient.Number.Binary64
import SearchClient.Request.Basic

/-!
# Page windows

Which page numbers to offer around the page that shows a given row, and where the links to the
previous and the next page lead. The quotient behind the previous link is rounded to a
floating-point number before its fraction is dropped.
-/

namespace SearchClient

/-- The page numbers offered for a result set. -/
structure PageWindow where
  current : Int
  first : Int
  last : Int
  maxPage : Int
  previousStart : Option Int
  nextStart : Option Int
  size : Int
  deriving DecidableEq

namespace PageWindow

/-- How many pages are offered. -/
def defaultSpan : Int := 9

/-- How many of them come before the current one. -/
def defaultLookback : Int := 4

/-- The whole part of a quotient, refused if it has none. -/
def wholePart : Option Int → Except Failure Int
  | some n => .ok n
  | none => .error .quotientTooLarge

/-- The whole part of a quotient, rounded to a floating-point number first. -/
def roundedQuotient (x y : Int) : Except Failure Int :=
  wholePart (Binary64.ofRatio x y).truncate?

/-- The first row of the page that the previous link leads to. -/
def previousOf (current start size : Int) : Except Failure (Option Int) :=
  if 1 < current then do
    let n ← roundedQuotient (start - (size - 1)) size
    return some (max 0 (n * size))
  else .ok none

/-- The window around the page with row `start`, for pages of `size` rows. -/
def compute (total start size span lookback : Int) : Except Failure PageWindow := do
  if size = 0 then throw .emptyPages
  let current := Int.fdiv start size + 1
  let maxPage := -Int.fdiv (-total) size
  let first := max 1 (current - lookback)
  let previousStart ← previousOf current start size
  return {
    current := current
    first := first
    last := min maxPage (first + span - 1)
    maxPage := maxPage
    previousStart := previousStart
    nextStart := if current < maxPage then some (current * size) else none
    size := size }

/-- The window of a result set in pages of the usual size. -/
def forHits (total start : Int) : Except Failure PageWindow :=
  compute total start pageSize defaultSpan defaultLookback

def count (w : PageWindow) : Nat := (w.last + 1 - w.first).toNat

/-- The page numbers offered, in order. -/
def pages (w : PageWindow) : List Int :=
  (List.range w.count).map fun (k : Nat) => w.first + k

/-- The most page numbers that can be counted in 64 bits with a sign. -/
def maxCount : Nat := 0x7FFFFFFFFFFFFFFF

/-- The page numbers offered, refused if there are too many to be counted. -/
def listPages (w : PageWindow) : Except Failure (List Int) :=
  if maxCount < w.count then .error .pagesUncountable else .ok w.pages

/-- The rows of a page: from the first up to but not including the second. -/
def offsets (w : PageWindow) (page : Int) : Int × Int := ((page - 1) * w.size, page * w.size)

end PageWindow
end SearchClient
