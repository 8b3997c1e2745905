import SearchClient.Wire.Sockets
import SearchClient.Wire.Stream

/-!
# The network

Everything the client meets outside itself: the sockets of its system, what the daemon is going to
do, the stream that it reads from, and a log of what the client has done.

The daemon takes a turn when the client connects and one for each line that reaches it. A turn
sends octets, which queue behind those still unread, and sets how the stream goes on after them.
A turn may also break the line that asks for it; it is then not taken. When there are no more
turns, the daemon ends the stream.
-/

namespace SearchClient

/-- How a line fails to get through. -/
inductive Fault where
  /-- Before any of it is sent. -/
  | write
  /-- After it is sent. -/
  | flush
  deriving DecidableEq

/-- What the daemon does at one turn. -/
structure Turn where
  octets : Bytes := []
  ending : Ending := .silent
  pace : Pace := .steady .zero
  fault : Option Fault := none
  deriving DecidableEq

structure Daemon where
  refuses : Bool := false
  turns : List Turn := []
  closeFails : Bool := false
  deriving DecidableEq

/-- What a connection consists of. -/
inductive Resource where
  | stream
  | socket
  deriving DecidableEq

/-- What the client has done, the latest last. -/
structure Log where
  attempts : List Attempt := []
  readTimeouts : List (Option Binary64) := []
  sent : List Bytes := []
  closed : List Resource := []
  deriving DecidableEq

/-- The daemon, the stream from it, the log, and the sockets that all of it goes through. -/
structure Network where
  daemon : Daemon := {}
  stream : Stream := {}
  log : Log := {}
  sockets : Sockets := .system

namespace Network

/-- The turn that the daemon would take next. -/
def nextTurn (n : Network) : Turn := n.daemon.turns.headD { ending := .closed }

/-- The network after the daemon's next turn. -/
def takeTurn (n : Network) : Network :=
  let turn := n.nextTurn
  { n with
    daemon := { n.daemon with turns := n.daemon.turns.drop 1 }
    stream := { n.stream with
      unread := n.stream.unread ++ turn.octets
      ending := turn.ending
      pace := turn.pace } }

/-- An attempt to connect, and whether the daemon accepts it; a failure if there is no attempting
it. It is logged in any case. -/
def connect (attempt : Attempt) (n : Network) : Except Failure Bool × Network :=
  let n := { n with log := { n.log with attempts := n.log.attempts ++ [attempt] } }
  match n.sockets.attemptFailure attempt with
  | some failure => (.error failure, n)
  | none => if n.daemon.refuses then (.ok false, n) else (.ok true, n.takeTurn)

/-- Sets how long a read waits for octets. A connection that cannot be set so is lost, with what it
brought. -/
def setReadTimeout (timeout : Option Binary64) (n : Network) : Except Failure Unit × Network :=
  let n := { n with log := { n.log with readTimeouts := n.log.readTimeouts ++ [timeout] } }
  match n.sockets.timeoutFailure timeout with
  | some failure => (.error failure, { n with stream := { n.stream with unread := [] } })
  | none => (.ok (), n)

/-- Sends octets, and whether they get through. -/
def send (octets : Bytes) (n : Network) : Bool × Network :=
  let sent := { n with log := { n.log with sent := n.log.sent ++ [octets] } }
  match n.nextTurn.fault with
  -- a turn that breaks the line is not taken
  | some .write => (false, n)
  | some .flush => (false, sent)
  | none => (true, sent.takeTurn)

/-- Closes a resource, and whether that succeeds; it is given up in either case. -/
def release (resource : Resource) (n : Network) : Bool × Network :=
  (!n.daemon.closeFails, { n with log := { n.log with closed := n.log.closed ++ [resource] } })

end Network
end SearchClient
