import SearchClient.Display.Highlight
import SearchClient.Mime.EncodedWord
import SearchClient.Number.Decimal

/-!
# Result records

A result line is a run of tagged fields, such as `<score>1.25</score>`, in any order; a field
that is missing is empty. Author, title and snippet are made safe for the display, then their
encoded words are decoded, and the terms are highlighted in title and snippet. A title that is
missing is the last part of the file name.
-/

namespace SearchClient

/-- One hit, ready for display. -/
structure Record where
  filename : Text
  author : Text
  score : Binary64
  title : Text
  dstart : Text
  dend : Text
  mimeType : Text
  page : Text
  date : Text
  filesize : Text
  snippet : Text
  deriving DecidableEq

namespace Record

/-! ## Fields -/

/-- The text of a tagged field, trimmed; empty if a tag of it is missing. -/
def field (tag line : Text) : Text :=
  match Text.cut? ('<' :: tag ++ ['>']) line with
  | none => []
  | some (_, rest) =>
    match Text.cut? ('<' :: '/' :: tag ++ ['>']) rest with
    | none => []
    | some (value, _) => Text.trim value

def scoreOf (value : Text) : Binary64 := (Binary64.read? value).getD .zero

/-- A raw text made safe for the display, with its encoded words decoded. -/
def clean (markup : Markup) (raw : Text) : Except Failure Text :=
  EncodedWord.decode markup.wide (markup.escaping.apply raw)

/-- The characters of a title that are shown. -/
def maxTitle : Nat := 80

/-- A title, cut if it is too long. -/
def truncateTitle (title : Text) : Text :=
  if title.length ≤ maxTitle then title else title.take maxTitle ++ [' ', '.', '.', '.']

/-- The title to show, before it is cut: that of the document, or the last part of its name. -/
def titleOf (markup : Markup) (title filename : Text) : Except Failure Text :=
  if title.isEmpty then .ok (markup.escaping.apply (Text.afterLast '/' filename))
  else clean markup title

def authorOf (markup : Markup) (author : Text) : Except Failure Text :=
  if author.isEmpty then .ok [] else clean markup author

/-! ## Lines -/

def ofLine (markup : Markup) (terms : List Text) (line : Text) : Except Failure Record := do
  let filename := field "filename".toList line
  let author ← authorOf markup (field "author".toList line)
  let title ← titleOf markup (field "title".toList line) filename
  let snippet ← clean markup (field "snippet".toList line)
  return {
    filename := filename
    author := author
    score := scoreOf (field "score".toList line)
    title := highlight markup terms (truncateTitle title)
    dstart := field "dstart".toList line
    dend := field "dend".toList line
    mimeType := field "type".toList line
    page := field "page".toList line
    date := field "date".toList line
    filesize := field "filesize".toList line
    snippet := highlight markup terms snippet }

/-- The label of a page or a range of pages: none for the first page or without a number. -/
def labelOf (page : Text) : Text :=
  if page.contains '-' then "pages ".toList ++ page
  else
    match Numeral.read? page with
    | some n => if 1 < n then "page ".toList ++ page else []
    | none => []

/-- The label of the pages on which the hit stands. -/
def pageLabel (r : Record) : Text := labelOf r.page

end Record
end SearchClient
