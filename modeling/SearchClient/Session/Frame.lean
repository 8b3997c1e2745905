import SearchClient.Wire.Stream

/-!
# Frames

The reply to one request: body lines and the status line that ends them, the first that starts
with an at sign. A frame whose status line does not come has an empty status.

`Frame.read` reads a frame from a stream. It stops at the status line, at the end of the stream,
at an interruption, and after a body line that comes later than the deadline.
-/

namespace SearchClient

/-- Body lines and status of one exchange. -/
structure Frame where
  body : List Text := []
  status : Text := []
  deriving DecidableEq

namespace Frame

def complete (f : Frame) : Bool := ['@'].isPrefixOf f.status

def text (f : Frame) : Text := f.body.flatMap fun line => line ++ ['\n']

/-- A line as text, without its line end. -/
def lineText (octets : Bytes) : Text :=
  Text.stripEndBy (fun c => c == '\r' || c == '\n') (Latin1.decode octets)

/-- Whether the clock has passed the deadline. -/
def overdue (deadline : Option Binary64) (now : Binary64) : Bool :=
  match deadline with
  | some d => d.lt now
  | none => false

/-- The next frame of a stream, and the stream after it. -/
def read (deadline : Option Binary64) (s : Stream) : Frame × Stream :=
  match h : s.readLine with
  | (.line octets, s') =>
    let line := lineText octets
    if ['@'].isPrefixOf line then ({ status := line }, s')
    -- a late line still belongs to the body, but no other is read
    else if overdue deadline s'.now then ({ body := [line] }, s')
    else
      have : s'.unread.length < s.unread.length := Stream.length_unread_of_readLine h
      let (rest, s'') := read deadline s'
      ({ rest with body := line :: rest.body }, s'')
  | (.finished, s') => ({}, s')
  | (.interrupted, s') => ({}, s')
termination_by s.unread.length

end Frame
end SearchClient
