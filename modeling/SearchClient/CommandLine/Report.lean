import SearchClient.Console.Rendering
import SearchClient.Display.Markup
import SearchClient.Search

/-!
# Reports

What the command line prints, as a list of prints: console markup, or text that is shown as it
is. `Print.texts` gives the plain text of each; a closing tag that matches nothing stops them there.
How a terminal lays a text out, in lines of its width, is no part of a report.
-/

namespace SearchClient
namespace CommandLine

/-- One thing to print, on lines of its own. -/
inductive Print where
  | markup (text : Text)
  | plain (text : Text)
  deriving DecidableEq

namespace Print

/-- The plain text of a print. -/
def text (naming : Console.Naming) : Print → Except Failure Text
  | markup source => Console.render naming source
  | plain shown => .ok (Console.printable shown)

/-- The plain texts of prints, up to the first that fails, and its failure. -/
def texts (naming : Console.Naming) : List Print → List Text × Option Failure
  | [] => ([], none)
  | print :: rest =>
    match print.text naming with
    | .error failure => ([], some failure)
    | .ok shown =>
      let (more, failure) := texts naming rest
      (shown :: more, failure)

def blank : Print := plain []

end Print

/-! ## Hits -/

/-- The prints of one hit: title and score, author and date, snippet, file, and an empty line. -/
def recordReport (naming : Console.Naming) (r : Record) : List Print :=
  let label := if r.pageLabel.isEmpty then [] else " (".toList ++ r.pageLabel ++ [')']
  let heading :=
    Console.renderOrRaw naming r.title ++ label ++ "  Score: ".toList ++ r.score.writeFixed 2
  let author := if r.author.isEmpty then [] else ["Author: ".toList ++ r.author]
  let date := if r.date.isEmpty then [] else ["Date: ".toList ++ Console.escape r.date]
  let details := author ++ date
  let gap := "  -  ".toList
  .plain heading ::
    (if details.isEmpty then []
      else [.plain (Console.renderOrRaw naming ("   ".toList ++ gap.intercalate details))]) ++
    (if r.snippet.isEmpty then [] else [.plain (Console.renderOrRaw naming r.snippet)]) ++
    [.plain (r.filename ++ gap ++ r.mimeType ++ gap ++ r.filesize), .blank]

/-- The line with the page numbers and where the previous and the next page start. -/
def navigation (w : PageWindow) : Text :=
  let back :=
    match w.previousStart with
    | some row => "<< (--start ".toList ++ Numeral.write row ++ ")  ".toList
    | none => []
  let onward :=
    match w.nextStart with
    | some row => " >> (--start ".toList ++ Numeral.write row ++ [')']
    | none => []
  "Result page: ".toList ++ back ++ w.pages.flatMap (fun n => Numeral.write n ++ [' ']) ++ onward

def pageReport (naming : Console.Naming) (page : ResultPage) : Except Failure (List Print) := do
  let summaryLine ← page.summaryLine
  return [ .markup ("[bold]Search Results[/bold] (".toList ++
      Console.escape page.typeDescription ++ ")  ".toList ++ summaryLine)
    , .blank ] ++
    if page.totalHits = 0 then [.markup "No documents match your query.".toList]
    else
      page.records.flatMap (recordReport naming) ++
        match page.window with
        | some w => [.plain (navigation w)]
        | none => []

/-! ## Summaries -/

def bold (text : Text) : Text := "[bold]".toList ++ text ++ "[/bold]".toList

/-- What starts an item of a list. -/
def bullet : Text := "  • ".toList

def rootReport (root : Coverage) : Print :=
  .markup (bullet ++ bold (Console.escape root.files) ++ " (".toList ++
    Console.escape root.directories ++ ") indexed for file system rooted at ".toList ++
    bold (Console.escape root.filesystem))

def countReport (t : TypeCount) : Print :=
  .markup (bullet ++ bold (Numeral.write t.count ++ ' ' :: t.description) ++ " (".toList ++
    Console.escape t.mimeType ++ [')'])

/-- The prints of an index summary for a user. -/
def summaryReport (summary : Summary) (username : Text) : List Print :=
  [ .markup (bold "Contents of Local Index".toList ++ "  Index covers ".toList ++
      Console.escape summary.master.filesystem ++ ", containing ".toList ++
      Console.escape summary.master.files ++ " and ".toList ++
      Console.escape summary.master.directories ++ ['.'])
  , .blank ] ++
    summary.roots.map rootReport ++
    [ .blank
    , .markup ("File type statistics (all files searchable by user ".toList ++
        bold (Console.escape username) ++ "):".toList) ] ++
    (if summary.fileTypes.isEmpty then
      [.markup (bullet ++ "No searchable files in index.".toList)]
      else []) ++
    summary.fileTypes.map countReport

/-! ## The rest -/

def documentReport (d : Document) : List Print := d.lines.map .plain

def kindsReport : List Print :=
  FileKind.all.map fun kind =>
    .markup ("  ".toList ++ Text.padRight 24 kind.token ++ ' ' :: kind.description ++
      if kind.group then " (group)".toList else [])

/-- The print of why a session is not ready. -/
def loginReport (c : Client) : Print :=
  if c.status = notConnected then
    .markup ("[red]Unable to connect to index daemon at ".toList ++ c.address ++ ".[/red]".toList)
  else .markup ("[red]Authentication failed:[/red] ".toList ++ Console.escape c.status)

end CommandLine
end SearchClient
