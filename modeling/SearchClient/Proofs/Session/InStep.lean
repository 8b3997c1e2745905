import SearchClient.Proofs.Session.Framing
import SearchClient.Proofs.Session.Runs

/-!
# Replies in step with requests

A daemon that keeps to the protocol greets, lets the client in, and answers each request by one
reply. `Script` is what such a daemon says. Against it the session reads for each request exactly
the reply meant for it: no octet is read too few or too many, however the replies look inside.

One exchange does not depend on what its lines are: `Client.ask_of_expects` is about a `Response`,
lines of any octets with a status line behind them. For a whole run the invariant is
`Client.Attuned`: between two requests nothing is unread, and the turns that the daemon has left are
those of the replies still to come. A line that is asked then takes up one reply
(`Client.ask_of_attuned`).
-/

namespace SearchClient

/-! ## What the daemon says -/

/-- The turn by which the daemon gives a reply. -/
def Reply.turn (r : Reply) : Turn := { octets := r.octets, ending := r.ending, pace := r.pace }

/-- Lines of octets, however they end before their line feeds, and the status line behind them. -/
structure Response where
  lines : List Bytes
  status : Bytes
  ending : Ending := .silent
  pace : Pace := .steady .zero
  unbroken_lines : ∀ line ∈ lines, 10 ∉ line := by decide
  open_lines : ∀ line ∈ lines, line.head? ≠ some atSign := by decide
  unbroken_status : 10 ∉ status := by decide
  marked_status : status.head? = some atSign := by decide

namespace Response

/-- The octets of a response. -/
def octets (r : Response) : Bytes := Reply.written r.lines ++ (r.status ++ [10])

/-- The lines of a response as text, without their line ends. -/
def frame (r : Response) : Frame where
  body := r.lines.map fun line => Frame.lineText (line ++ [10])
  status := Frame.lineText (r.status ++ [10])

/-- The turn by which the daemon gives a response. -/
def turn (r : Response) : Turn := { octets := r.octets, ending := r.ending, pace := r.pace }

/-- No line of the response but its status is read after the deadline. -/
def InTime (deadline : Option Binary64) (k : Clock) (r : Response) : Prop :=
  ∀ n < r.lines.length, Frame.overdue deadline (k.ticks (n + 1)).now = false

instance (deadline : Option Binary64) (k : Clock) (r : Response) :
    Decidable (r.InTime deadline k) :=
  inferInstanceAs (Decidable (∀ n < r.lines.length, _))

theorem complete_frame (r : Response) : r.frame.complete = true :=
  (Frame.isPrefixOf_lineText r.status).2 r.marked_status

end Response

/-- A reply is a response whose lines do not end in a carriage return. -/
def Reply.response (r : Reply) : Response where
  lines := r.body
  status := r.status
  ending := r.ending
  pace := r.pace
  unbroken_lines := fun line hline => (r.plain_body line hline).1
  open_lines := r.open_body
  unbroken_status := r.plain_status.1
  marked_status := r.marked_status

theorem Reply.frame_response (r : Reply) : r.response.frame = r.frame := by
  obtain ⟨hbody, hstatus⟩ := Frame.lines_of_reply r
  simp only [Response.frame, Reply.response, hbody, hstatus]

namespace Clock

def paced (pace : Pace) (k : Clock) : Clock := { k with pace := pace }

def deadline (timeout : Option Binary64) (k : Clock) : Option Binary64 := timeout.map k.now.add

/-- The clock after a response is read, one read for each line. -/
def afterResponse (r : Response) (k : Clock) : Clock := (k.paced r.pace).ticks (r.lines.length + 1)

/-- The clock after a reply is read, one read for each line. -/
def afterReply (r : Reply) (k : Clock) : Clock := (k.paced r.pace).ticks (r.body.length + 1)

/-- Replies that each come in time when they are read one after the other. -/
def InTime (timeout : Option Binary64) : Clock → List Reply → Prop
  | _, [] => True
  | k, r :: replies =>
    r.InTime (k.deadline timeout) (k.paced r.pace) ∧ InTime timeout (k.afterReply r) replies

instance (timeout : Option Binary64) : (k : Clock) → (replies : List Reply) →
    Decidable (InTime timeout k replies)
  | _, [] => .isTrue trivial
  | k, r :: replies =>
    have := instDecidableInTime timeout (k.afterReply r) replies
    inferInstanceAs (Decidable (_ ∧ _))

end Clock

/-- What a daemon says that keeps to the protocol: a greeting of one line, a reply that lets the
client in, one reply for each request, and then anything. -/
structure Script where
  greeting : Turn
  line : Bytes
  login : Reply
  replies : List Reply
  later : List Turn
  greeting_octets : greeting.octets = line ++ [10] := by decide
  greeting_line : 10 ∉ line := by decide
  greeting_text : Frame.lineText greeting.octets ≠ [] := by decide
  greeting_welcomes : ¬ ['@', '1'] <+: Frame.lineText greeting.octets := by decide
  login_length : 2 ≤ login.status.length := by decide
  login_accepts : ¬ ['@', '1'] <+: Latin1.decode login.status := by decide

namespace Script

/-- The daemon that keeps to a script. -/
def daemon (s : Script) (closeFails : Bool) : Daemon where
  turns := s.greeting :: s.login.turn :: (s.replies.map Reply.turn ++ s.later)
  closeFails := closeFails

/-- The clock after the greeting is read, when it showed `now` before. -/
def afterGreeting (s : Script) (now : Binary64) : Clock :=
  Clock.tick { now := now, pace := s.greeting.pace }

/-- No reply passes the deadline while it is read. -/
def InTime (s : Script) (timeout : Option Binary64) (now : Binary64) : Prop :=
  (s.afterGreeting now).InTime timeout (s.login :: s.replies)

instance (s : Script) (timeout : Option Binary64) (now : Binary64) :
    Decidable (s.InTime timeout now) :=
  inferInstanceAs (Decidable (Clock.InTime _ _ _))

/-- A script with a blank line and a carriage return in a body, whose lines take a second each. -/
def sample : Script where
  greeting := { octets := [64, 48, 13, 10], pace := .steady (.ofInt 1) }
  line := [64, 48, 13]
  login := { body := [], status := [64, 48, 32] }
  replies :=
    [{ body := [[], [97, 13, 98]], status := [64, 48], pace := .steady (.ofInt 1) },
      { body := [], status := [64, 49], ending := .closed }]
  later := []

end Script

namespace Network

variable {n : Network} {turn : Turn} {turns : List Turn}

theorem takeTurn_of_turns (h : n.daemon.turns = turn :: turns) :
    n.takeTurn.stream.unread = n.stream.unread ++ turn.octets ∧
      n.takeTurn.stream.clock = n.stream.clock.paced turn.pace ∧
      n.takeTurn.daemon.turns = turns := by
  simp [takeTurn, nextTurn, h, Stream.clock, Clock.paced]

theorem send_of_turns (h : n.daemon.turns = turn :: turns) (hfault : turn.fault = none)
    (octets : Bytes) :
    n.send octets =
      (true, { n with log := { n.log with sent := n.log.sent ++ [octets] } }.takeTurn) := by
  have hnext : n.nextTurn.fault = none := by simp [nextTurn, h, hfault]
  rw [send, hnext]

end Network

namespace Client

variable {c d : Client} {line : Text} {later : List Turn}

/-! ## One exchange -/

section Exchange

variable {r : Response}

/-- Nothing is unread, and the daemon answers the next line by a response that comes in time. -/
structure Expects (c : Client) (r : Response) (later : List Turn) : Prop where
  unread : c.network.stream.unread = []
  turns : c.network.daemon.turns = r.turn :: later
  inTime : r.InTime (c.network.stream.clock.deadline c.account.readTimeout)
    (c.network.stream.clock.paced r.pace)

/-- What a line and its response change: they take one turn of the daemon and leave nothing
unread. -/
structure Heard (line : Text) (r : Response) (later : List Turn) (c d : Client) : Prop where
  account : d.account = c.account
  unread : d.network.stream.unread = []
  turns : d.network.daemon.turns = later
  clock : d.network.stream.clock = c.network.stream.clock.afterResponse r
  sent : d.sent = c.sent ++ [wire line]

theorem readFrame_of_response (hunread : c.network.stream.unread = r.octets)
    (htime : r.InTime c.deadline c.network.stream.clock) :
    c.readFrame =
      (r.frame, { c with network := { c.network with
        stream := c.network.stream.withClock []
          (c.network.stream.clock.ticks (r.lines.length + 1)) } }) := by
  have hread := Frame.read_lines r.unbroken_status r.marked_status r.lines r.unbroken_lines
    r.open_lines c.network.stream hunread htime
  rw [readFrame, hread]
  rfl

/-- **A line asked is answered by the response that is expected.** -/
theorem ask_of_expects (h : Expects c r later) (hline : Unbroken line) :
    (c.ask line).1 = some r.frame ∧ Heard line r later c (c.ask line).2 := by
  have hsend := Network.send_of_turns h.turns rfl (wire line)
  -- once the line is through, the octets of the response are all that is unread
  let logged : Network :=
    { c.network with log := { c.network.log with sent := c.network.log.sent ++ [wire line] } }
  let sending : Client := { c with network := logged.takeTurn }
  have hturn := Network.takeTurn_of_turns (n := logged) h.turns
  have hunread : sending.network.stream.unread = r.octets := by
    rw [hturn.1]
    exact congrArg (· ++ r.octets) h.unread
  have hclock : sending.network.stream.clock = c.network.stream.clock.paced r.pace := hturn.2.1
  have hread := readFrame_of_response (c := sending) hunread (by rw [hclock]; exact h.inTime)
  rw [ask_of_through hline hsend, hread]
  refine ⟨rfl, ⟨rfl, rfl, hturn.2.2, ?_, rfl⟩⟩
  show sending.network.stream.clock.ticks _ = _
  rw [hclock]
  rfl

theorem execute_of_expects (h : Expects c r later) (hready : c.phase = .ready)
    (hline : Unbroken line) :
    (c.execute line).1 = r.frame ∧ (c.execute line).2.status = r.frame.status ∧
      (c.execute line).2.phase = .ready ∧ Heard line r later c (c.execute line).2 := by
  obtain ⟨hreply, hheard⟩ := ask_of_expects h hline
  have hphase := (kept_ask line c).phase
  have hsettle : c.execute line = (r.frame, { (c.ask line).2 with status := r.frame.status }) := by
    rw [execute_of_ready (by simp [ready, hready])]
    rcases hask : c.ask line with ⟨reply, d⟩
    rw [hask] at hreply
    cases hreply
    rw [settle, r.complete_frame]
    rfl
  rw [hsettle]
  exact ⟨rfl, rfl, hphase.trans hready,
    ⟨hheard.account, hheard.unread, hheard.turns, hheard.clock, hheard.sent⟩⟩

end Exchange

/-! ## Replies one after the other -/

variable {r : Reply} {replies : List Reply}

/-- Nothing is unread, and the daemon's turns are those of the replies to come, each in time. -/
structure Attuned (c : Client) (replies : List Reply) (later : List Turn) : Prop where
  unread : c.network.stream.unread = []
  turns : c.network.daemon.turns = replies.map Reply.turn ++ later
  inTime : c.network.stream.clock.InTime c.account.readTimeout replies

namespace Attuned

theorem of_eq (h : Attuned c replies later) (hnetwork : d.network = c.network)
    (haccount : d.account = c.account) : Attuned d replies later := by
  constructor
  · rw [hnetwork]
    exact h.unread
  · rw [hnetwork]
    exact h.turns
  · rw [hnetwork, haccount]
    exact h.inTime

theorem expects (h : Attuned c (r :: replies) later) :
    Expects c r.response (replies.map Reply.turn ++ later) :=
  ⟨h.unread, h.turns, h.inTime.1⟩

theorem of_heard (h : Attuned c (r :: replies) later)
    (hheard : Heard line r.response (replies.map Reply.turn ++ later) c d) :
    Attuned d replies later := by
  refine ⟨hheard.unread, hheard.turns, ?_⟩
  rw [hheard.clock, hheard.account]
  exact h.inTime.2

end Attuned

/-- A line asked of an attuned client takes up one reply, and leaves it attuned. -/
theorem ask_of_attuned (h : Attuned c (r :: replies) later) (hline : Unbroken line) :
    (c.ask line).1 = some r.frame ∧ Attuned (c.ask line).2 replies later ∧
      (c.ask line).2.sent = c.sent ++ [wire line] := by
  obtain ⟨hreply, hheard⟩ := ask_of_expects h.expects hline
  rw [r.frame_response] at hreply
  exact ⟨hreply, h.of_heard hheard, hheard.sent⟩

theorem execute_of_attuned (h : Attuned c (r :: replies) later) (hready : c.phase = .ready)
    (hline : Unbroken line) :
    (c.execute line).1 = r.frame ∧ (c.execute line).2.status = r.frame.status ∧
      (c.execute line).2.phase = .ready ∧ Attuned (c.execute line).2 replies later ∧
      (c.execute line).2.sent = c.sent ++ [wire line] := by
  obtain ⟨hreply, hstatus, hphase, hheard⟩ := execute_of_expects h.expects hready hline
  rw [r.frame_response] at hreply hstatus
  exact ⟨hreply, hstatus, hphase, h.of_heard hheard, hheard.sent⟩

/-! ## Login -/

theorem unbroken_loginLine_iff {account : Account} :
    Unbroken (loginLine account) ↔ Unbroken account.username ∧ Unbroken account.password := by
  have hword : Unbroken "@login ".toList := by decide
  have hblank : Unbroken [' '] := by decide
  have hline : loginLine account =
      ("@login ".toList ++ account.username) ++ ([' '] ++ account.password) := rfl
  rw [hline, unbroken_append, unbroken_append, unbroken_append]
  exact and_congr (and_iff_right hword) (and_iff_right hblank)

theorem unbroken_loginLine {account : Account} (huser : Unbroken account.username)
    (hpassword : Unbroken account.password) : Unbroken (loginLine account) :=
  unbroken_loginLine_iff.2 ⟨huser, hpassword⟩

theorem readGreeting_of_line {greeting : Bytes} (h : 10 ∉ greeting)
    (hunread : c.network.stream.unread = greeting ++ [10]) :
    c.readGreeting =
      (Frame.lineText (greeting ++ [10]), { c with network := { c.network with
        stream := c.network.stream.withClock [] c.network.stream.clock.tick } }) := by
  rw [readGreeting, Stream.readLine_of_line h hunread]

/-- A client that has the greeting before it and attuned replies behind it logs in. -/
theorem authenticate_of_greeting {greeting : Bytes} (hgreeting : 10 ∉ greeting)
    (hwelcomes : welcomes (Frame.lineText (greeting ++ [10])) = true)
    (hunread : c.network.stream.unread = greeting ++ [10])
    (hturns : c.network.daemon.turns = r.turn :: (replies.map Reply.turn ++ later))
    (htime : c.network.stream.clock.tick.InTime c.account.readTimeout (r :: replies))
    (haccepts : isFailureStatus r.frame.status = false) (hline : Unbroken (loginLine c.account)) :
    c.authenticate.2.phase = .ready ∧ Attuned c.authenticate.2 replies later ∧
      c.authenticate.2.sent = c.sent ++ [wire (loginLine c.account)] := by
  have hread := readGreeting_of_line hgreeting hunread
  have hattuned : Attuned c.readGreeting.2 (r :: replies) later := by
    rw [hread]
    exact ⟨rfl, hturns, htime⟩
  rcases ask_of_attuned hattuned hline with ⟨hreply, hrest, hsent⟩
  rw [authenticate_eq, if_pos (by rw [hread]; exact hwelcomes)]
  rcases hask : c.readGreeting.2.ask (loginLine c.account) with ⟨reply, d⟩
  rw [hask] at hreply hrest hsent
  cases hreply
  rw [enter_of_accepted haccepts]
  refine ⟨rfl, hrest.of_eq rfl rfl, ?_⟩
  rw [hread] at hsent
  exact hsent

/-- Against a script the login succeeds, and the session is attuned to the replies. -/
theorem connect_of_script (account : Account) (script : Script) (closeFails : Bool) (now : Binary64)
    (sockets : Sockets) (hline : Unbroken (loginLine account))
    (hfits : (fresh account (script.daemon closeFails) now sockets).connectFailure? = none)
    (htime : script.InTime account.readTimeout now) :
    let c := (fresh account (script.daemon closeFails) now sockets).connect.2
    c.phase = .ready ∧ Attuned c script.replies script.later ∧
      c.sent = [wire (loginLine account)] := by
  let c₀ := fresh account (script.daemon closeFails) now sockets
  have hdialed : c₀.connect.2 = c₀.dialed.authenticate.2 :=
    congrArg Prod.snd (connect_of_disconnected rfl hfits)
  have hwelcomes : welcomes (Frame.lineText (script.line ++ [10])) = true := by
    have htext := script.greeting_text
    have hcode := script.greeting_welcomes
    rw [script.greeting_octets] at htext hcode
    exact welcomes_iff.2 ⟨htext, hcode⟩
  have haccepts : isFailureStatus script.login.frame.status = false := by
    have hlength : 2 ≤ script.login.frame.status.length := by
      simpa [Reply.frame, Latin1.decode, Charset.decode] using script.login_length
    exact isFailureStatus_eq_false_iff.2 ⟨hlength, script.login_accepts⟩
  show c₀.connect.2.phase = _ ∧ _
  rw [hdialed]
  exact authenticate_of_greeting script.greeting_line hwelcomes script.greeting_octets rfl htime
    haccepts hline

/-! ## Runs of requests -/

theorem after_of_attuned (h : Attuned c replies later) (hready : c.phase = .ready)
    (requests : List Text) (hrequests : ∀ line ∈ requests, Unbroken line)
    (hlength : requests.length ≤ replies.length) :
    let d := c.after (requests.map .execute)
    d.phase = .ready ∧ Attuned d (replies.drop requests.length) later ∧
      d.sent = c.sent ++ requests.map wire := by
  -- each request takes up the first of the replies left
  induction requests generalizing c replies with
  | nil => exact ⟨hready, h, (List.append_nil c.sent).symm⟩
  | cons line requests ih =>
    cases replies with
    | nil => simp at hlength
    | cons r replies =>
      have hline : Unbroken line := hrequests line (by simp)
      rcases execute_of_attuned h hready hline with ⟨-, -, hphase, hrest, hsent⟩
      have hlater := ih hrest hphase (fun l hl => hrequests l (by simp [hl])) (by simpa using hlength)
      refine ⟨hlater.1, hlater.2.1, hlater.2.2.trans ?_⟩
      rw [hsent, List.map_cons, List.append_assoc]
      rfl

/-- **Replies stay in step with requests.** Against a daemon that keeps to a script, and for an account
that sockets take, the session is ready after its start and after every request, nothing is then
unread, and it has sent the login line and the requests so far; each request is answered by its own
reply. -/
theorem replies_in_step (account : Account) (script : Script) (closeFails : Bool) (now : Binary64)
    (sockets : Sockets) (requests : List Text) (huser : Unbroken account.username)
    (hpassword : Unbroken account.password) (hrequests : ∀ line ∈ requests, Unbroken line)
    (hlength : requests.length = script.replies.length)
    (hfits : (fresh account (script.daemon closeFails) now sockets).connectFailure? = none)
    (htime : script.InTime account.readTimeout now) :
    let c := (start account
      { daemon := script.daemon closeFails, stream := { now := now }, sockets }).2
    let d := fun k => c.after ((requests.take k).map .execute)
    (∀ k ≤ requests.length,
      (d k).phase = .ready ∧ (d k).network.stream.unread = [] ∧
        (d k).sent = (loginLine account :: requests.take k).map wire) ∧
      ∀ k (hk : k < requests.length),
        let reply := script.replies[k].frame
        ((d k).execute requests[k]).1 = reply ∧ ((d k).execute requests[k]).2 = d (k + 1) ∧
          (d (k + 1)).status = reply.status := by
  intro c d
  obtain ⟨hready, hattuned, hsent⟩ := connect_of_script account script closeFails now sockets
    (unbroken_loginLine huser hpassword) hfits htime
  -- after the first `k` requests the session is attuned to the replies behind the first `k`
  have hrun : ∀ k ≤ requests.length, (d k).phase = .ready ∧
      Attuned (d k) (script.replies.drop k) script.later ∧
        (d k).sent = (loginLine account :: requests.take k).map wire := by
    intro k hk
    have htake : (requests.take k).length = k := by simp [hk]
    have hbound : (requests.take k).length ≤ script.replies.length := by omega
    have hafter := after_of_attuned hattuned hready (requests.take k)
      (fun line hline => hrequests line (List.mem_of_mem_take hline)) hbound
    rw [htake, hsent] at hafter
    exact hafter
  refine ⟨fun k hk => ⟨(hrun k hk).1, (hrun k hk).2.1.unread, (hrun k hk).2.2⟩, ?_⟩
  intro k hk reply
  rcases hrun k (by omega) with ⟨hphase, hrest, -⟩
  rw [List.drop_eq_getElem_cons (by omega)] at hrest
  have hnext : ((d k).execute requests[k]).2 = d (k + 1) := by
    simp only [d, List.take_add_one, List.getElem?_eq_getElem hk, Option.toList_some,
      List.map_append, after_append]
    rfl
  rcases execute_of_attuned hrest hphase (hrequests _ (List.getElem_mem hk)) with
    ⟨hreply, hstatus, -⟩
  exact ⟨hreply, hnext, hnext ▸ hstatus⟩

/-- Two requests against the sample, one of them with a character that has no octet. -/
theorem replies_in_step_sample :
    let account : Account :=
      { host := "localhost".toList, port := 1234, username := "anna".toList, password := []
        connectTimeout := some (.ofInt 2), readTimeout := some (.ofInt 30) }
    let requests : List Text := ["@page".toList, ['@', 'λ']]
    let c := (start account
      { daemon := Script.sample.daemon true, stream := { now := .zero }, sockets := .system }).2
    let d := fun k => c.after ((requests.take k).map .execute)
    ((d 0).execute "@page".toList).1 =
        { body := [[], ['a', '\r', 'b']], status := ['@', '0'] } ∧
      (d 1).network.stream.unread = [] ∧
      ((d 1).execute ['@', 'λ']).1 = { status := ['@', '1'] } ∧
      (d 2).sent =
        [[64, 108, 111, 103, 105, 110, 32, 97, 110, 110, 97, 32, 10], [64, 112, 97, 103, 101, 10],
          [64, 63, 10]] := by
  intro account requests
  have hfits : (fresh account (Script.sample.daemon true) .zero .system).connectFailure? = none := by
    decide +kernel
  obtain ⟨hstates, hanswers⟩ := replies_in_step account Script.sample true .zero .system requests
    (by decide) (by decide) (by decide) rfl hfits (by decide +kernel)
  refine ⟨(hanswers 0 (by decide)).1.trans ?_, (hstates 1 (by decide)).2.1,
    (hanswers 1 (by decide)).1.trans ?_, (hstates 2 (by decide)).2.2.trans ?_⟩
  all_goals decide +kernel

end Client
end SearchClient
