import SearchClient.Request.FileKind

/-!
# Usage and help

The texts that the command line prints about itself: how each part of it is called, and what its
arguments mean.
-/

namespace SearchClient
namespace CommandLine

/-- A part of the command line: the program itself or one of its commands. -/
inductive Topic where
  | program
  | search
  | summary
  | get
  | types
  deriving DecidableEq

def joinLines (lines : List String) : Text := lines.flatMap fun line => line.toList ++ ['\n']

/-- The file types that a search can be restricted to, as one alternative. -/
def fileTypeSet : String :=
  "\x7b" ++ String.ofList ([','].intercalate FileKind.sortedTokens) ++ "\x7d"

namespace Topic

/-- The name under which a part reports. -/
def name : Topic → Text
  | program => "index-client".toList
  | search => "index-client search".toList
  | summary => "index-client summary".toList
  | get => "index-client get".toList
  | types => "index-client types".toList

/-- How a part is called. -/
def usageLines : Topic → List String
  | program =>
    [ "usage: index-client [-h] [--version] [--verbose] [--host HOST] [--port PORT]"
    , "                    [--username USERNAME]"
    , "                    \x7bsearch,summary,get,types\x7d ..." ]
  | search =>
    [ "usage: index-client search [-h] [--start START] [--end END]"
    , "                           [--filename FILENAME]"
    , "                           [--filetype " ++ fileTypeSet ++ "]"
    , "                           [query ...]" ]
  | summary =>
    [ "usage: index-client summary [-h]" ]
  | get =>
    [ "usage: index-client get [-h] from_offset [to_offset]" ]
  | types =>
    [ "usage: index-client types [-h]" ]

/-- What the arguments of a part mean. -/
def detailLines : Topic → List String
  | program =>
    [ ""
    , "Search a remote full-text index daemon"
    , ""
    , "positional arguments:"
    , "  \x7bsearch,summary,get,types\x7d"
    , "                        Commands"
    , "    search              Search the index"
    , "    summary             Show index contents"
    , "    get                 Print document text for an offset range"
    , "    types               List file type filters"
    , ""
    , "options:"
    , "  -h, --help            show this help message and exit"
    , "  --version, -V         Show version"
    , "  --verbose, -v         Log protocol traffic"
    , "  --host HOST           Index daemon host (default: $INDEX_CLIENT_HOST)"
    , "  --port PORT           Index daemon port (default: $INDEX_CLIENT_PORT)"
    , "  --username USERNAME, -u USERNAME"
    , "                        Login name (default: $INDEX_CLIENT_USER)" ]
  | search =>
    [ ""
    , "positional arguments:"
    , "  query                 Search terms; quote phrases as '\"two words\"'"
    , ""
    , "options:"
    , "  -h, --help            show this help message and exit"
    , "  --start START, -s START"
    , "                        First result row"
    , "  --end END, -e END     Row after the last result (10-20 rows)"
    , "  --filename FILENAME, -f FILENAME"
    , "                        Restrict to file names matching a wildcard"
    , "  --filetype " ++ fileTypeSet ++ ", -t " ++ fileTypeSet
    , "                        File type filter, repeatable" ]
  | summary =>
    [ ""
    , "options:"
    , "  -h, --help  show this help message and exit" ]
  | get =>
    [ ""
    , "positional arguments:"
    , "  from_offset  Start offset"
    , "  to_offset    End offset"
    , ""
    , "options:"
    , "  -h, --help   show this help message and exit" ]
  | types =>
    [ ""
    , "options:"
    , "  -h, --help  show this help message and exit" ]

def usage (topic : Topic) : Text := joinLines topic.usageLines

def help (topic : Topic) : Text := joinLines (topic.usageLines ++ topic.detailLines)

end Topic
end CommandLine
end SearchClient
