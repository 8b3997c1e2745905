import SearchClient.Failure
import SearchClient.Number.Binary64
import SearchClient.Request.FileKind

/-!
# Search requests

A request asks for the rows `start` to `stop` of the hits of a query, under an optional wildcard
for file names and a selection of file kinds. `Request.create` builds one from what a caller
hands over: it clamps the rows to between ten and twenty and fills in what is missing.
-/

namespace SearchClient

def pageSize : Int := 10

/-- The most rows that one request may ask for. -/
def maxRows : Int := 20

/-- A row offset as a caller may write it. -/
inductive Offset where
  | absent
  | flag (value : Bool)
  | whole (value : Int)
  | real (value : Binary64)
  | text (value : Text)
  | malformed

namespace Offset

/-- The row that an offset names, or `default` if it names none. A real number loses its
fraction; an infinite one is the only offset that is refused. -/
def row (default : Int) : Offset → Except Failure Int
  | absent => .ok default
  | flag value => .ok (if value then 1 else 0)
  | whole value => .ok value
  | real (.infinity _) => .error .infiniteOffset
  | real value => .ok (value.truncate?.getD default)
  | text value => .ok ((Numeral.read? value).getD default)
  | malformed => .ok default

end Offset

/-- A search as it is submitted: rows `start` up to but not including `stop`. -/
structure Request where
  start : Int := 0
  stop : Int := pageSize
  query : Text := []
  filename : Option Text := none
  fileTypes : List Text := [FileKind.everything]
  deriving DecidableEq

namespace Request

/-- The last row asked for when rows `start` to `stop` are wanted: ten to twenty after `start`. -/
def clampStop (start stop : Int) : Int := min (max stop (start + pageSize)) (start + maxRows)

/-- The tokens given, or all files if none is. -/
def selection (tokens : List (Option Text)) : List Text :=
  let given := tokens.filterMap fun token => token.filter fun t => !t.isEmpty
  if given.isEmpty then [FileKind.everything] else given

/-- The request for what a caller hands over. -/
def create (query : Text) (start stop : Offset) (filename : Option Text)
    (tokens : List (Option Text)) : Except Failure Request := do
  let first := max 0 (← start.row 0)
  let last ← stop.row (first + pageSize)
  return {
    start := first
    stop := clampStop first last
    query := Text.without ['\\'] query
    filename := filename.filter fun name => !name.isEmpty
    fileTypes := selection tokens }

end Request
end SearchClient
