import SearchClient.Number.Numeral
import SearchClient.Request.FileKind

/-!
# Index summaries

What the daemon has indexed: the coverage of the whole index and of each file system in it, three
fields to a line between tabs, and the number of files of each type, such as `text/html: 42`.
-/

namespace SearchClient

/-- What is covered of one file system, or of all. -/
structure Coverage where
  filesystem : Text := []
  files : Text := []
  directories : Text := []
  deriving DecidableEq

/-- How many files of a type there are. -/
structure TypeCount where
  mimeType : Text
  count : Int
  description : Text
  deriving DecidableEq

/-- What the daemon has indexed. -/
structure Summary where
  master : Coverage := {}
  roots : List Coverage := []
  fileTypes : List TypeCount := []
  deriving DecidableEq

/-- The coverage of a line; a field that is missing is empty. -/
def Coverage.ofLine (line : Text) : Coverage :=
  match line.splitOn '\t' with
  | [] => {}
  | [a] => ⟨a, [], []⟩
  | [a, b] => ⟨a, b, []⟩
  | a :: b :: c :: _ => ⟨a, b, c⟩

namespace TypeCount

/-- The nouns that a description may already have. -/
def nouns : List Text := ["documents".toList, "files".toList, "messages".toList]

/-- The wording for many files of a type. -/
def plural (mimeType : Text) : Text :=
  let known := (FileKind.describe? mimeType).getD "Unknown files".toList
  -- a description without a noun gets one
  let noun := if nouns.any fun n => Text.has n known then known else known ++ " documents".toList
  if noun = "E-mail messages".toList then "E-mail message (mbox) files".toList else noun

/-- The wording for a number of files of a type: one file loses the plural's last letter. -/
def describe (mimeType : Text) (count : Int) : Text :=
  if count = 1 then (plural mimeType).dropLast else plural mimeType

/-- The count of a line, if it has one. -/
def ofLine? (line : Text) : Option TypeCount :=
  match (Text.trim line).splitOn ' ' with
  | name :: figure :: _ =>
    (Numeral.read? figure).map fun count =>
      let mimeType := if name.getLast? = some ':' then name.dropLast else name
      { mimeType, count, description := describe mimeType count }
  | _ => none

/-- The counts of lines; a line without one is skipped. -/
def ofLines (lines : List Text) : List TypeCount := lines.filterMap ofLine?

end TypeCount

namespace Summary

/-- The summary of the coverage lines, the master's first, and the count lines. -/
def ofLines (coverage counts : List Text) : Summary :=
  { master := (coverage.head?.map Coverage.ofLine).getD {}
    roots := (coverage.drop 1).map Coverage.ofLine
    fileTypes := TypeCount.ofLines counts }

end Summary
end SearchClient
