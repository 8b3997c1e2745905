import SearchClient.Session.Frame
import SearchClient.Text.Quoted
import SearchClient.Wire.Network

/-!
# Sessions

A session is one authenticated connection to the daemon. It is disconnected at first, is ready
after a login, and once closed stays closed. What goes wrong on the way is told by the session's
status, so that there is always something to show.

This module holds the state of a client: its account, its session and the network around it, and
the two ways a session ends.
-/

namespace SearchClient

/-- Where the daemon is, and who logs in. -/
structure Account where
  host : Text
  port : Int
  username : Text
  password : Text
  connectTimeout : Option Binary64
  readTimeout : Option Binary64
  deriving DecidableEq

/-- The phases of a session, in the order in which it goes through them. -/
inductive Phase where
  | disconnected
  | authenticating
  | ready
  | closed
  deriving DecidableEq

namespace Phase

def name : Phase → Text
  | disconnected => "disconnected".toList
  | authenticating => "authenticating".toList
  | ready => "ready".toList
  | closed => "closed".toList

end Phase

/-- The status of a session without a connection. -/
def notConnected : Text := "@1-Not connected.".toList

/-- Whether a status reports a failure: its code is `@1`, or it is too short to have a code. -/
def isFailureStatus (status : Text) : Bool := status.length < 2 || ['@', '1'].isPrefixOf status

/-- A client: an account, the session on it and the network around. -/
structure Client where
  account : Account
  network : Network
  phase : Phase := .disconnected
  status : Text := []
  held : List Resource := []

namespace Client

def ready (c : Client) : Bool := c.phase == .ready

def address (c : Client) : Text := c.account.host ++ ':' :: Numeral.write c.account.port

def describe (c : Client) : Text :=
  "IndexSession(".toList ++ c.address ++ ", user=".toList ++ Quoted.encode c.account.username ++
    ", state=".toList ++ c.phase.name ++ [')']

/-- Closes the session: every resource that it holds is closed, whether or not that succeeds. -/
def close (c : Client) : Client :=
  if c.phase = .closed then c
  else
    { c with
      network := c.held.foldl (fun n resource => (n.release resource).2) c.network
      held := []
      phase := .closed }

/-- Closes the session and says why. -/
def fail (status : Text) (c : Client) : Client := { c.close with status := status }

/-- The time by which a reply to a request sent now has to come. -/
def deadline (c : Client) : Option Binary64 :=
  c.account.readTimeout.map fun timeout => c.network.stream.now.add timeout

end Client
end SearchClient
