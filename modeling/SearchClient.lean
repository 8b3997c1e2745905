import SearchClient.Text.LowerCase
import SearchClient.Number.Decimal
import SearchClient.Request.Line
import SearchClient.Charset.Label
import SearchClient.Mime.QuotedPrintable
import SearchClient.Mime.EncodedWord
import SearchClient.Display.Highlight
import SearchClient.Console.Rendering
import SearchClient.Console.Columns
import SearchClient.Session.Exchange
import SearchClient.Search
import SearchClient.Settings
import SearchClient.CommandLine.Grammar
import SearchClient.Main
import SearchClient.Proofs.Text.Pieces
import SearchClient.Proofs.Number.Spelling
import SearchClient.Proofs.Number.Numeral
import SearchClient.Proofs.Number.Rounding
import SearchClient.Proofs.Outcome
import SearchClient.Proofs.Mime.Decoding
import SearchClient.Proofs.Display.Segments
import SearchClient.Proofs.Display.Escaping
import SearchClient.Proofs.Display.Entities
import SearchClient.Proofs.Request.Terms
import SearchClient.Proofs.Request.Stretches
import SearchClient.Proofs.Request.Quoting
import SearchClient.Proofs.Request.Normal
import SearchClient.Proofs.Request.Inquiry
import SearchClient.Proofs.Request.SearchLine
import SearchClient.Proofs.Session.Effects
import SearchClient.Proofs.Session.Runs
import SearchClient.Proofs.Session.Inert
import SearchClient.Proofs.Session.Lifecycle
import SearchClient.Proofs.Session.Framing
import SearchClient.Proofs.Session.Transcript
import SearchClient.Proofs.Session.InStep
import SearchClient.Proofs.Result.Legible
import SearchClient.Proofs.Result.Brackets
import SearchClient.Proofs.Result.Paging
import SearchClient.Proofs.Result.TaggedFields
import SearchClient.Proofs.Result.Characters
import SearchClient.Proofs.Search.Confinement
import SearchClient.Proofs.Search.Inventory
import SearchClient.Proofs.Search.Answers
import SearchClient.Proofs.Search.Browsing
import SearchClient.Proofs.Session.Secrecy
import SearchClient.Proofs.CommandLine.Conclusions
import SearchClient.Proofs.Console.Shown
import SearchClient.Proofs.CommandLine.SummaryLines
import SearchClient.Proofs.Display.Markers
import SearchClient.Proofs.Display.Spans
import SearchClient.Proofs.Mime.Words
import SearchClient.Proofs.Session.Reading
import SearchClient.Proofs.Session.Timely
import SearchClient.Proofs.Session.Verdicts
import SearchClient.Proofs.Session.Login
import SearchClient.Proofs.Search.Slices
import SearchClient.Proofs.Number.Nearest
import SearchClient.Proofs.Result.Windows
import SearchClient.Proofs.Search.Heading
