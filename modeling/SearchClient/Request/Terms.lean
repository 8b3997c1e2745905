import SearchClient.Text.Blank

/-!
# Search terms

A query is split into terms at its double quotes: a stretch inside quotes is one phrase, a
stretch outside is one term for each word between plain spaces. Line breaks count as plain
spaces, every term is trimmed, and a blank one is none. A last quote that is never closed opens a
phrase up to the end of the query.
-/

namespace SearchClient
namespace Terms

/-- The query with its line breaks read as spaces. -/
def unbroken (query : Text) : Text :=
  query.map fun c => if c = '\r' || c = '\n' then ' ' else c

/-- The term of a stretch inside quotes, if it is not blank. -/
def phrase (stretch : Text) : List Text :=
  let term := Text.trim stretch
  if term.isEmpty then [] else [term]

/-- The terms of a stretch outside quotes. -/
def words (stretch : Text) : List Text := (stretch.splitOn ' ').flatMap phrase

/-- The terms of stretches that lie outside and inside quotes by turns. -/
def ofStretches (quoted : Bool) : List Text → List Text
  | [] => []
  | stretch :: rest =>
    (if quoted then phrase stretch else words stretch) ++ ofStretches (!quoted) rest

def ofQuery (query : Text) : List Text := ofStretches false ((unbroken query).splitOn '"')

end Terms
end SearchClient
