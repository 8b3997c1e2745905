import SearchClient.Number.Numeral
import SearchClient.Text.Quoted

/-!
# Failures

The causes for which an operation gives no result, and the wording of each. What the daemon says
or fails to say is never among them: that is reported through statuses.
-/

namespace SearchClient

/-- Why an operation has no result. -/
inductive Failure where
  /-- A search request without a search term. -/
  | noSearchTerms (query : Text)
  /-- An integer with too many digits to be written. -/
  | numeralTooLong
  /-- The label of a character set holds a NUL. -/
  | nulInLabel
  /-- Pages of no rows. -/
  | emptyPages
  /-- A quotient beyond the floating-point range. -/
  | quotientTooLarge
  /-- More page numbers than can be counted. -/
  | pagesUncountable
  /-- A row offset that is infinite. -/
  | infiniteOffset
  /-- A host name that cannot be looked up at all, and what is wrong with it. -/
  | unusableHost (reason : Text)
  /-- A port number beyond the range of a machine word. -/
  | unusablePort
  /-- A time to wait that is not a number. -/
  | timeoutNotANumber
  /-- A time to wait beyond what a clock can count. -/
  | timeoutTooLong
  /-- A time to wait that is negative. -/
  | timeoutNegative
  /-- A closing tag at `position` whose name is not open. -/
  | unmatchedTag (tag : Text) (position : Nat)
  /-- A closing tag without name at `position` where nothing is open. -/
  | nothingOpen (position : Nat)
  deriving DecidableEq

namespace Failure

def message : Failure → Text
  | noSearchTerms query => "No search terms in ".toList ++ Quoted.encode query
  | numeralTooLong =>
    "Exceeds the limit (".toList ++ Numeral.writeNat Numeral.maxDigits ++
      " digits) for integer string conversion; ".toList ++
      "use sys.set_int_max_str_digits() to increase the limit".toList
  | nulInLabel => "embedded null character".toList
  | emptyPages => "integer division or modulo by zero".toList
  | quotientTooLarge => "integer division result too large for a float".toList
  | pagesUncountable => "too many pages to count".toList
  | infiniteOffset => "cannot convert float infinity to integer".toList
  | unusableHost reason =>
    "encoding with 'idna' codec failed (UnicodeError: ".toList ++ reason ++ [')']
  | unusablePort => "port number too large for a machine word".toList
  | timeoutNotANumber => "Invalid value NaN (not a number)".toList
  | timeoutTooLong => "timestamp out of range for platform time_t".toList
  | timeoutNegative => "Timeout value out of range".toList
  | unmatchedTag tag position =>
    "closing tag '".toList ++ tag ++ "' at position ".toList ++ Numeral.writeNat position ++
      " doesn't match any open tag".toList
  | nothingOpen position =>
    "closing tag '[/]' at position ".toList ++ Numeral.writeNat position ++
      " has nothing to close".toList

end Failure
end SearchClient
