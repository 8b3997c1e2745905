import SearchClient.Request.Line
import SearchClient.Result.Page
import SearchClient.Session.Exchange

/-!
# Searching

What a client does over its session: it searches and gets one page of hits, asks what is indexed,
and fetches document text. A search without terms shows the summary of the index instead of hits,
and a session that is not ready gives an empty page whose status says so.
-/

namespace SearchClient

/-- Document text between two offsets. -/
structure Document where
  first : Int
  last : Int
  lines : List Text := []
  status : Text := []
  deriving DecidableEq

namespace Document

/-- Whether the daemon keeps the text back. -/
def denied (d : Document) : Bool := ['@', '1'].isPrefixOf d.status

/-- The text that a reply gives; the lines of one that keeps it back are no part of it. -/
def ofReply (first last : Int) (frame : Frame) : Document :=
  let document : Document := { first, last, status := frame.status }
  if document.denied then document else { document with lines := frame.body }

end Document

namespace Client

/-- Asks what the daemon has indexed. -/
def indexSummary (c : Client) : Summary × Client :=
  let (coverage, c) := c.execute summaryLine
  let (counts, c) := c.execute statisticsLine
  (Summary.ofLines coverage.body counts.body, c)

def searchTerms (markup : Markup) (request : Request) (terms : List Text) (c : Client) :
    Except Failure ResultPage × Client :=
  match request.searchLine terms with
  | .error (.noSearchTerms _) =>
    -- the page's status is that of the last exchange
    let (summary, c) := c.indexSummary
    (.ok { ResultPage.blank request terms with summary := some summary, status := c.status }, c)
  | .error failure => (.error failure, c)
  | .ok line =>
    let (frame, c) := c.execute line
    (ResultPage.ofReply markup request terms frame, c)

/-- Searches for the terms of a request's query. -/
def search (markup : Markup) (request : Request) (c : Client) :
    Except Failure ResultPage × Client :=
  let terms := Terms.ofQuery request.query
  if c.ready then c.searchTerms markup request terms
  else (.ok { ResultPage.blank request terms with status := notConnected }, c)

/-- Fetches the document text from offset `first` to `last`. An offset too long to be written is
refused before the session is looked at. -/
def fetchText (first : Int) (last : Option Int) (c : Client) : Except Failure Document × Client :=
  if [first, lastOffset first last].all Numeral.isWritable then
    let (frame, c) := c.execute (getLine first last)
    (.ok (Document.ofReply first (lastOffset first last) frame), c)
  else (.error .numeralTooLong, c)

end Client
end SearchClient
