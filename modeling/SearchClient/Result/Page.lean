import SearchClient.Result.Record
import SearchClient.Result.Summary
import SearchClient.Result.Window
import SearchClient.Session.Frame

/-!
# Result pages

Everything that is needed to show one page of hits: the request and its terms, the records of
the rows asked for, how many hits there are and how long the search took.
-/

namespace SearchClient

/-! ## Hits -/

def isHitLine (line : Text) : Bool := !line.isEmpty && !(['@'].isPrefixOf line)

/-- The leading hit lines of a body: an empty line ends them. -/
def countHits (lines : List Text) : Nat := (lines.takeWhile isHitLine).length

/-- A position in a list of `length` elements: a negative one counts from the end. -/
def position (length : Nat) (index : Int) : Nat :=
  if index < 0 then (index + length).toNat else min index.toNat length

/-- The elements from `start` up to but not including `stop`. -/
def slice {α : Type} (start stop : Int) (xs : List α) : List α :=
  (xs.take (position xs.length stop)).drop (position xs.length start)

/-- The seconds that a status such as `@0-Ok (123 ms)` tells, zero if it tells none. -/
def elapsedOf (status : Text) : Binary64 :=
  match Text.cut? ['('] status with
  | none => .zero
  | some (_, rest) =>
    match Binary64.read? (rest.takeWhile (· != ' ')) with
    | some milliseconds => milliseconds.divNat 1000
    | none => .zero

/-! ## Pages -/

/-- One page of hits, or the summary of the index in their place. -/
structure ResultPage where
  request : Request
  terms : List Text := []
  records : List Record := []
  totalHits : Nat := 0
  start : Int := 0
  stop : Int := 0
  elapsed : Binary64 := .zero
  window : Option PageWindow := none
  status : Text := []
  typeDescription : Text := []
  summary : Option Summary := none

/-- The number of hits from which on more are likely. -/
def manyHits : Int := 2000

/-- The text above the hits: which rows are shown, of how many, and the time taken. -/
def resultsText (total start stop : Int) (elapsed : Binary64) : Text :=
  let seconds := elapsed.writeFixed 3 ++ " seconds".toList
  if total = 0 then "No matching documents found (".toList ++ seconds ++ [')', '.']
  else
    "Results ".toList ++ Numeral.write (start + 1) ++ " - ".toList ++ Numeral.write stop ++
      " of ".toList ++ Numeral.write total ++ (if manyHits ≤ total then ['+'] else []) ++
      " (".toList ++ seconds ++ [')']

/-- The text above the hits, if its numbers can be written: without hits it has none. -/
def resultsLine (total start stop : Int) (elapsed : Binary64) : Except Failure Text :=
  if total = 0 || [start + 1, stop, total].all Numeral.isWritable then
    .ok (resultsText total start stop elapsed)
  else .error .numeralTooLong

namespace ResultPage

def summaryLine (page : ResultPage) : Except Failure Text :=
  resultsLine page.totalHits page.start page.stop page.elapsed

/-- The page of a request before anything is known of its hits. -/
def blank (request : Request) (terms : List Text) : ResultPage :=
  { request, terms
    start := request.start
    stop := request.stop
    typeDescription := FileKind.describeSelection request.fileTypes }

/-- The page of a request whose reply has come. -/
def ofReply (markup : Markup) (request : Request) (terms : List Text) (frame : Frame) :
    Except Failure ResultPage := do
  -- the rows are counted from the first hit, whatever follows the last one
  let total := countHits frame.body
  let stop := min request.stop total
  let records ← (slice request.start stop frame.body).mapM (Record.ofLine markup terms)
  let window ←
    if pageSize < total then (PageWindow.forHits total request.start).map some else pure none
  return { blank request terms with
    records, window, stop
    totalHits := total
    elapsed := elapsedOf frame.status
    status := frame.status }

end ResultPage
end SearchClient
