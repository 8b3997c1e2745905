import SearchClient.Request.Basic
import SearchClient.Request.Terms

/-!
# Request lines

What the client asks of the daemon, one line each: a search, the coverage of the index, the
counts of each file type, the text between two offsets. A search line carries its rows and
filters as bracketed parameters, then the quoted terms.
-/

namespace SearchClient

/-- Asks for the coverage of the index. -/
def summaryLine : Text := "@summary".toList

/-- Asks for the number of files of each type. -/
def statisticsLine : Text := "@filestats".toList

namespace Request

/-! ## Filters -/

/-- What a selection of file kinds asks of the daemon. -/
inductive Filter where
  /-- No restriction. -/
  | unrestricted
  /-- Plain files, found by the markers around their contents. -/
  | plainFiles
  /-- Files of any of the types. -/
  | types (tokens : List Text)
  deriving DecidableEq

/-- The filter of a selection: plain files win over all files, and these over single types. -/
def Filter.ofSelection (tokens : List Text) : Filter :=
  if tokens.contains FileKind.files then plainFiles
  else if tokens.contains FileKind.everything then unrestricted
  else types tokens

/-- A parameter's value without the characters that would open another parameter or end the
line. -/
def sanitize (value : Text) : Text := Text.without ['[', ']', '&', '\r', '\n'] value

def parameter (name value : Text) : Text := '[' :: name ++ '=' :: value ++ [']']

/-- The part of a search line that stands for a filter. -/
def Filter.clause : Filter → Text
  | unrestricted => []
  | plainFiles => " \"<file!>\"..\"</file!>\" by".toList
  | types tokens => tokens.flatMap fun token => parameter "filetype".toList (sanitize token)

/-! ## Lines -/

/-- A term as it stands in a search line. -/
def quoteTerm (term : Text) : Text := '"' :: term ++ ['"']

def lineFor (request : Request) (terms : List Text) : Text :=
  "@desktop".toList ++
    parameter "start".toList (Numeral.write request.start) ++
    parameter "end".toList (Numeral.write request.stop) ++
    (match request.filename with
      | some name => parameter "filename".toList (sanitize name)
      | none => []) ++
    (Filter.ofSelection request.fileTypes).clause ++
    ' ' :: [',', ' '].intercalate (terms.map quoteTerm)

def hasWritableRows (request : Request) : Bool :=
  Numeral.isWritable request.start && Numeral.isWritable request.stop

/-- The search line, refused if there is nothing to search for or if a row cannot be written. -/
def searchLine (request : Request) (terms : List Text) : Except Failure Text :=
  if terms.isEmpty then .error (.noSearchTerms request.query)
  else if request.hasWritableRows then .ok (request.lineFor terms)
  else .error .numeralTooLong

/-- The search line for the terms of the request's own query. -/
def ownLine (request : Request) : Except Failure Text :=
  request.searchLine (Terms.ofQuery request.query)

end Request

/-! ## Document text -/

/-- The last offset asked for: never before the first, and the first if none is given. -/
def lastOffset (first : Int) (last : Option Int) : Int := max first (last.getD first)

/-- Asks for the document text between two offsets. -/
def getLine (first : Int) (last : Option Int) : Text :=
  "@get ".toList ++ Numeral.write first ++ ' ' :: Numeral.write (lastOffset first last)

end SearchClient
