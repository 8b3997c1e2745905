import SearchClient.Text.Basic

/-!
# File kinds

The kinds of file that a search can be restricted to. Each has the token that the daemon knows it
by and a description for people; some tokens name a group of kinds.
-/

namespace SearchClient

/-- A kind of file, or a group of kinds, as filters name it. -/
structure FileKind where
  token : Text
  description : Text
  group : Bool

namespace FileKind

def single (token description : String) : FileKind :=
  ⟨token.toList, description.toList, false⟩

def groupOf (token description : String) : FileKind :=
  ⟨token.toList, description.toList, true⟩

/-- Every kind and group, in the order in which they are listed to people. -/
def all : List FileKind :=
  [ single "text/html" "HTML documents"
  , single "application/pdf" "Adobe PDF"
  , single "application/postscript" "Adobe PostScript"
  , single "text/plain" "Text files"
  , single "application/msword" "Microsoft Office"
  , single "text/xml" "XML documents"
  , single "text/x-mail" "E-mail messages"
  , single "audio/mpeg" "MPEG audio files"
  , single "application/multitext" "MultiText input files"
  , groupOf "everything" "Everything"
  , groupOf "email" "E-mail messages"
  , groupOf "office" "Office documents"
  , groupOf "files" "Files" ]

/-- The group of all files, which asks for no filter. -/
def everything : Text := "everything".toList

/-- The group of plain files, which the daemon finds by their contents. -/
def files : Text := "files".toList

/-- The tokens in alphabetical order. -/
def sortedTokens : List Text := (all.map token).mergeSort Text.inOrder

/-- The description of a token, if it is a known one. -/
def describe? (token : Text) : Option Text :=
  (all.find? fun kind => kind.token == token).map description

/-- A choice of kinds as a caller may write it: none, the token of one, or tokens some of which may
be missing. -/
inductive Choice where
  | absent
  | single (token : Text)
  | several (tokens : List (Option Text))

/-- The tokens of a choice: one alone is a list of one. -/
def Choice.tokens : Choice → List (Option Text)
  | absent => []
  | single token => [some token]
  | several tokens => tokens

/-- A label for a selection of tokens: the descriptions of the known ones. -/
def describeSelection (tokens : List Text) : Text :=
  [',', ' '].intercalate (tokens.filterMap describe?)

end FileKind
end SearchClient
