import SearchClient.Failure
import SearchClient.Number.Binary64

/-!
# Sockets

What the sockets of a system make of the host, the port and the times they are given, before any
daemon comes into it. Some of these they do not take at all, and that is a failure of the operation
that gives them, not a refusal of the connection.

1. `Sockets` says what fails so, and is a parameter of everything that meets the network;
2. `Sockets.system` are the sockets of a 64-bit system that can encode every name.
-/

namespace SearchClient

/-- An attempt to connect. -/
structure Attempt where
  host : Text
  port : Int
  timeout : Option Binary64
  deriving DecidableEq

/-- What sockets do not take, and how that fails. -/
structure Sockets where
  /-- What becomes of an attempt to connect that cannot be made. -/
  attemptFailure : Attempt → Option Failure
  /-- What becomes of a time to wait for octets that cannot be set. -/
  timeoutFailure : Option Binary64 → Option Failure

namespace Sockets

/-! ## Hosts and ports -/

/-- The most characters of a label, a part of a host name between points. -/
def maxLabel : Nat := 63

/-- What is wrong with a host name in ASCII: every label but the last one has a character and none
has too many. The last one may be empty. -/
def nameFailure (host : Text) : Option Failure :=
  let labels := host.splitOn '.'
  if labels.dropLast.all fun label => 0 < label.length && label.length ≤ maxLabel then
    if (labels.getLastD []).length ≤ maxLabel then none
    else some (.unusableHost "label too long".toList)
  else some (.unusableHost "label empty or too long".toList)

/-- Whether a port number is one of 64 bits with a sign; it need not be that of a service. -/
def isPortWord (port : Int) : Bool := -Nat.pow 2 63 ≤ port && port < Nat.pow 2 63

/-! ## Times -/

/-- How many ticks of the clock make a second. -/
def ticksPerSecond : Nat := Nat.pow 10 9

/-- The least tick count that, written to 53 significant bits, is one of 64 bits with a sign no
more. Below it the spacing is `2 ^ 10`, and a half goes up. -/
def tickLimit : Nat := Nat.pow 2 63 - Nat.pow 2 9

/-- The same on the negative side, where the spacing doubles at the limit and a half goes to it. -/
def negativeTickLimit : Nat := Nat.pow 2 63 + Nat.pow 2 10

/-- What is wrong with a time to wait: it is zero or positive, and the clock can count it. -/
def secondsFailure : Binary64 → Option Failure
  | .nan => some .timeoutNotANumber
  | .infinity _ => some .timeoutTooLong
  | .finite negative units =>
    let ticks := units * ticksPerSecond
    if negative then
      if negativeTickLimit * Binary64.unitsPerOne < ticks then some .timeoutTooLong
      else if units = 0 then none
      else some .timeoutNegative
    else if tickLimit * Binary64.unitsPerOne ≤ ticks then some .timeoutTooLong
    else none

/-! ## Systems -/

/-- The sockets of a 64-bit system. It encodes a name that is not in ASCII before it looks it up, and
`foreign` tells what is wrong with such a name. The time to wait for the connection is set once the
name was looked up. -/
def systemWith (foreign : Text → Option Failure) : Sockets where
  attemptFailure attempt :=
    (if attempt.host.all fun c => c.toNat < 0x80 then nameFailure attempt.host
      else foreign attempt.host)
    <|> (if isPortWord attempt.port then none else some .unusablePort)
    <|> attempt.timeout.bind secondsFailure
  timeoutFailure timeout := timeout.bind secondsFailure

/-- The sockets of a 64-bit system that can encode every name. -/
def system : Sockets := systemWith fun _ => none

end Sockets
end SearchClient
