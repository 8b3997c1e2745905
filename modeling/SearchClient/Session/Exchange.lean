import SearchClient.Session.Basic

/-!
# Exchanges

What a session says and hears. `Client.connect` opens the connection and logs in, and
`Client.execute` sends one request line and reads the frame that answers it. A line break in a
line would make two requests of it, so such a line is refused. A line that does not get through
and a reply that does not end in a status close the session.
-/

namespace SearchClient
namespace Client

/-! ## Lines -/

/-- Sends a line, and whether it got through. -/
def send (line : Text) (c : Client) : Bool × Client :=
  if line.contains '\n' || line.contains '\r' then (false, c)
  else
    let (through, network) := c.network.send (Latin1.encode (line ++ ['\n']))
    (through, { c with network := network })

/-- The daemon's greeting without its line end, empty if none comes. -/
def readGreeting (c : Client) : Text × Client :=
  let (read, stream) := c.network.stream.readLine
  let c := { c with network := { c.network with stream := stream } }
  match read with
  | .line octets => (Frame.lineText octets, c)
  | .finished => ([], c)
  | .interrupted => ([], c)

/-- Reads the frame that answers the line just sent. -/
def readFrame (c : Client) : Frame × Client :=
  let (frame, stream) := Frame.read c.deadline c.network.stream
  (frame, { c with network := { c.network with stream := stream } })

/-! ## Login -/

def loginLine (account : Account) : Text :=
  "@login ".toList ++ account.username ++ ' ' :: account.password

/-- Logs in on an open connection, and whether that succeeds. -/
def authenticate (c : Client) : Bool × Client :=
  let (greeting, c) := c.readGreeting
  if greeting.isEmpty || ['@', '1'].isPrefixOf greeting then (false, c.fail notConnected)
  else
    let (through, c) := c.send (loginLine c.account)
    if through then
      let (frame, c) := c.readFrame
      if isFailureStatus frame.status then
        -- a refusal is told in the daemon's own words, if it gave any
        (false, c.fail (if frame.status.isEmpty then notConnected else frame.status))
      else (true, { c with status := frame.status, phase := .ready })
    else (false, c.fail notConnected)

/-- Connects and logs in, once: later calls only tell whether the session is ready. If sockets do
not take what the account says, that is a failure, and the session is as disconnected as before. -/
def connect (c : Client) : Except Failure Bool × Client :=
  if c.phase = .disconnected then
    let attempt : Attempt := ⟨c.account.host, c.account.port, c.account.connectTimeout⟩
    match c.network.connect attempt with
    | (.error failure, network) => (.error failure, { c with network := network })
    | (.ok false, network) => (.ok false, { c with network := network }.fail notConnected)
    | (.ok true, network) =>
      match network.setReadTimeout c.account.readTimeout with
      -- the daemon has accepted the connection, but the session does not hold it yet
      | (.error failure, network) => (.error failure, { c with network := network })
      | (.ok (), network) =>
        let (ready, c) := authenticate
          { c with
            network := network
            held := [.stream, .socket]
            phase := .authenticating }
        (.ok ready, c)
  else (.ok c.ready, c)

/-- A client for an account, and what became of connecting it. -/
def start (account : Account) (network : Network) : Except Failure Bool × Client :=
  connect { account, network }

/-! ## Requests -/

/-- The answer of a session without a connection. -/
def notConnectedFrame : Frame := { status := notConnected }

/-- Sends a request line and reads the frame that answers it. -/
def execute (line : Text) (c : Client) : Frame × Client :=
  if c.ready then
    let (through, c) := c.send line
    if through then
      let (frame, c) := c.readFrame
      let c := { c with status := frame.status }
      (frame, if frame.complete then c else c.close)
    else (notConnectedFrame, c.fail notConnected)
  -- nothing but the status changes
  else (notConnectedFrame, { c with status := notConnected })

/-- Sends a request line and gives the body of the reply as text. -/
def query (line : Text) (c : Client) : Text × Client :=
  if c.ready then
    let (frame, c) := c.execute line
    (frame.text, c)
  else (notConnected, { c with status := notConnected })

end Client
end SearchClient
