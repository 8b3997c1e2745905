import SearchClient.Proofs.Wire.Line
import SearchClient.Session.Exchange

/-!
# What the steps of a session change

Sending a line, reading the greeting and reading a frame act on the network around a session and
leave the session as it is. This module states that once, and puts `Client.connect` and
`Client.execute` in the form in which they are used from here on:

1. `Client.ask` sends a line and reads the frame that answers it, if the line gets through
   (`Client.GetsThrough`);
2. `Client.settle` and `Client.enter` say what the answer to a request and to the login comes to;
3. `Client.connectFailure?` says why sockets do not take an account, if they do not;
4. `Client.execute_of_ready`, `Client.connect_of_disconnected` and `Client.connect_of_fails` are the
   two operations by these.
-/

namespace SearchClient

namespace Client

variable {c d e : Client} {line : Text}

/-- The octets that a client has sent, line by line. -/
def sent (c : Client) : List Bytes := c.network.log.sent

/-! ## What is kept -/

/-- Nothing has happened between the two clients but sending and reading. -/
structure Kept (c d : Client) : Prop where
  account : d.account = c.account
  phase : d.phase = c.phase
  status : d.status = c.status
  held : d.held = c.held
  sockets : d.network.sockets = c.network.sockets
  refuses : d.network.daemon.refuses = c.network.daemon.refuses
  attempts : d.network.log.attempts = c.network.log.attempts
  closed : d.network.log.closed = c.network.log.closed

theorem Kept.refl (c : Client) : Kept c c := by
  constructor <;> rfl

theorem Kept.trans (h : Kept c d) (h' : Kept d e) : Kept c e where
  account := h'.account.trans h.account
  phase := h'.phase.trans h.phase
  status := h'.status.trans h.status
  held := h'.held.trans h.held
  sockets := h'.sockets.trans h.sockets
  refuses := h'.refuses.trans h.refuses
  attempts := h'.attempts.trans h.attempts
  closed := h'.closed.trans h.closed

theorem send_of_broken (h : ¬ Unbroken line) : c.send line = (false, c) := by
  rw [unbroken_iff_contains, Bool.not_eq_false] at h
  rw [send, if_pos h]

theorem send_of_unbroken (h : Unbroken line) :
    c.send line =
      ((c.network.send (wire line)).1, { c with network := (c.network.send (wire line)).2 }) := by
  rw [unbroken_iff_contains] at h
  simp only [send, h]
  rfl

/-- A line is logged as sent unless it is broken or fails before any of it is sent; a line that
gets through is logged. -/
theorem send_cases (line : Text) (c : Client) :
    c.send line = (false, c) ∨
      Unbroken line ∧ Kept c (c.send line).2 ∧
        (c.send line).2.sent = c.sent ++ [wire line] := by
  by_cases h : Unbroken line
  · rw [send_of_unbroken h, Network.send]
    cases c.network.nextTurn.fault with
    | none => exact .inr ⟨h, ⟨rfl, rfl, rfl, rfl, rfl, rfl, rfl, rfl⟩, rfl⟩
    | some fault =>
      cases fault with
      | write => exact .inl rfl
      | flush => exact .inr ⟨h, ⟨rfl, rfl, rfl, rfl, rfl, rfl, rfl, rfl⟩, rfl⟩
  · exact .inl (send_of_broken h)

theorem sent_send (h : Unbroken line) (hfault : c.network.nextTurn.fault ≠ some .write) :
    (c.send line).2.sent = c.sent ++ [wire line] := by
  rw [send_of_unbroken h, Network.send]
  rcases hturn : c.network.nextTurn.fault with _ | _ | _
  · rfl
  · exact absurd hturn hfault
  · rfl

theorem kept_send (line : Text) (c : Client) : Kept c (c.send line).2 := by
  rcases send_cases line c with h | ⟨-, hkept, -⟩
  · rw [h]
    exact Kept.refl c
  · exact hkept

theorem kept_readFrame (c : Client) : Kept c c.readFrame.2 := by
  constructor <;> rfl

theorem readGreeting_snd (c : Client) :
    c.readGreeting.2 =
      { c with network := { c.network with stream := c.network.stream.readLine.2 } } := by
  rw [readGreeting]
  rcases c.network.stream.readLine with ⟨read, stream⟩
  cases read <;> rfl

theorem kept_readGreeting (c : Client) : Kept c c.readGreeting.2 := by
  rw [readGreeting_snd]
  constructor <;> rfl

@[simp] theorem log_readGreeting (c : Client) : c.readGreeting.2.network.log = c.network.log := by
  rw [readGreeting_snd]

/-! ## Closing -/

theorem foldl_release (resources : List Resource) (n : Network) :
    resources.foldl (fun n resource => (n.release resource).2) n =
      { n with log := { n.log with closed := n.log.closed ++ resources } } := by
  induction resources generalizing n with
  | nil => simp
  | cons resource resources ih =>
    rw [List.foldl_cons, ih]
    simp [Network.release]

@[simp] theorem phase_close (c : Client) : c.close.phase = .closed := by
  by_cases h : c.phase = .closed <;> simp [close, h]

@[simp] theorem account_close (c : Client) : c.close.account = c.account := by
  by_cases h : c.phase = .closed <;> simp [close, h]

@[simp] theorem sent_close (c : Client) : c.close.sent = c.sent := by
  by_cases h : c.phase = .closed <;> simp [close, h, sent, foldl_release]

@[simp] theorem stream_close (c : Client) : c.close.network.stream = c.network.stream := by
  by_cases h : c.phase = .closed <;> simp [close, h, foldl_release]

@[simp] theorem phase_fail (c : Client) (status : Text) : (c.fail status).phase = .closed :=
  phase_close c

@[simp] theorem account_fail (c : Client) (status : Text) : (c.fail status).account = c.account :=
  account_close c

@[simp] theorem sent_fail (c : Client) (status : Text) : (c.fail status).sent = c.sent :=
  sent_close c

@[simp] theorem stream_fail (c : Client) (status : Text) :
    (c.fail status).network.stream = c.network.stream :=
  stream_close c

/-! ## Asking -/

/-- Sends a line and reads the frame that answers it; there is none if the line fails. -/
def ask (line : Text) (c : Client) : Option Frame × Client :=
  let (through, c) := c.send line
  if through then
    let (frame, c) := c.readFrame
    (some frame, c)
  else (none, c)

theorem ask_of_through {m : Network} (hline : Unbroken line)
    (hsend : c.network.send (wire line) = (true, m)) :
    c.ask line =
      (some { c with network := m }.readFrame.1, { c with network := m }.readFrame.2) := by
  rw [ask, send_of_unbroken hline, hsend]
  rfl

/-- The line is one line, and the daemon does not break it. -/
def GetsThrough (c : Client) (line : Text) : Prop :=
  Unbroken line ∧ c.network.nextTurn.fault = none

instance (c : Client) (line : Text) : Decidable (c.GetsThrough line) :=
  inferInstanceAs (Decidable (_ ∧ _))

/-- What there is to read once the daemon has taken its next turn. -/
def answering (c : Client) : Stream := c.network.takeTurn.stream

/-- A line that gets through is answered by the next frame of what the daemon then sends. -/
theorem ask_of_getsThrough (h : c.GetsThrough line) :
    (c.ask line).1 = some (Frame.read c.deadline c.answering).1 ∧
      (c.ask line).2.network.stream = (Frame.read c.deadline c.answering).2 ∧
      (c.ask line).2.sent = c.sent ++ [wire line] := by
  obtain ⟨hline, hfault⟩ := h
  have hsend : c.network.send (wire line) =
      (true, { c.network with
        log := { c.network.log with sent := c.network.log.sent ++ [wire line] } }.takeTurn) := by
    rw [Network.send, hfault]
  rw [ask_of_through hline hsend]
  exact ⟨rfl, rfl, rfl⟩

theorem ask_of_broken (h : ¬ Unbroken line) (c : Client) : c.ask line = (none, c) := by
  rw [ask, send_of_broken h]
  rfl

/-- A line that does not get through has no answer, and nothing is read. -/
theorem ask_of_not_getsThrough (h : ¬ c.GetsThrough line) :
    (c.ask line).1 = none ∧ (c.ask line).2.network.stream = c.network.stream := by
  by_cases hline : Unbroken line
  · rw [ask, send_of_unbroken hline, Network.send]
    cases hfault : c.network.nextTurn.fault with
    | none => exact absurd ⟨hline, hfault⟩ h
    -- a line that cannot be flushed is sent, but nothing is read after it
    | some fault => cases fault <;> exact ⟨rfl, rfl⟩
  · rw [ask_of_broken hline]
    exact ⟨rfl, rfl⟩

theorem kept_ask (line : Text) (c : Client) : Kept c (c.ask line).2 := by
  have hkept := kept_send line c
  rw [ask]
  rcases hsend : c.send line with ⟨_ | _, d⟩
  · rwa [hsend] at hkept
  · rw [hsend] at hkept
    exact hkept.trans (kept_readFrame d)

theorem sent_ask_eq (line : Text) (c : Client) : (c.ask line).2.sent = (c.send line).2.sent := by
  rw [ask]
  rcases c.send line with ⟨_ | _, d⟩ <;> rfl

/-- A line that is asked is logged as sent, unless it has no answer and is not sent at all. -/
theorem sent_ask (line : Text) (c : Client) :
    (c.ask line).1 = none ∧ (c.ask line).2.sent = c.sent ∨
      Unbroken line ∧ (c.ask line).2.sent = c.sent ++ [wire line] := by
  rcases send_cases line c with h | ⟨hline, -, hsent⟩
  · -- nothing was sent, so nothing is read either
    rw [ask, h]
    exact .inl ⟨rfl, rfl⟩
  · exact .inr ⟨hline, (sent_ask_eq line c).trans hsent⟩

/-! ## Requests -/

/-- What a request comes to, by the answer to its line. -/
def settle : Option Frame × Client → Frame × Client
  | (some frame, d) =>
    (frame, if frame.complete then { d with status := frame.status }
      else { d with status := frame.status }.close)
  | (none, d) => (notConnectedFrame, d.fail notConnected)

theorem close_with_status (c : Client) (status : Text) :
    { c with status := status }.close = c.fail status := by
  by_cases h : c.phase = .closed <;> simp [fail, close, h]

/-- A request leaves the session as it was if a whole frame answers it, and ends it otherwise. -/
theorem settle_cases (asked : Option Frame × Client) :
    (∃ frame, asked.1 = some frame ∧ frame.complete = true ∧
      settle asked = (frame, { asked.2 with status := frame.status })) ∨
      ∃ status, (settle asked).2 = asked.2.fail status := by
  rcases asked with ⟨_ | frame, d⟩
  · exact .inr ⟨notConnected, rfl⟩
  · cases h : frame.complete with
    | false => exact .inr ⟨frame.status, by simp [settle, h, close_with_status]⟩
    | true => exact .inl ⟨frame, rfl, h, by simp [settle, h]⟩

theorem sent_settle (asked : Option Frame × Client) : (settle asked).2.sent = asked.2.sent := by
  rcases settle_cases asked with ⟨frame, -, -, h⟩ | ⟨status, h⟩
  · rw [h]
    rfl
  · rw [h, sent_fail]

theorem execute_of_ready (h : c.ready = true) (line : Text) :
    c.execute line = settle (c.ask line) := by
  rw [execute, if_pos h, ask]
  rcases c.send line with ⟨_ | _, d⟩ <;> rfl

theorem execute_of_getsThrough (hready : c.ready = true) (h : c.GetsThrough line) :
    c.execute line = settle (some (Frame.read c.deadline c.answering).1, (c.ask line).2) := by
  obtain ⟨hreply, -, -⟩ := ask_of_getsThrough h
  rw [execute_of_ready hready, ← hreply]

theorem execute_of_not_getsThrough (hready : c.ready = true) (h : ¬ c.GetsThrough line) :
    c.execute line = (notConnectedFrame, (c.ask line).2.fail notConnected) := by
  obtain ⟨hnone, -⟩ := ask_of_not_getsThrough h
  have hsettle : settle (none, (c.ask line).2) = (notConnectedFrame, (c.ask line).2.fail notConnected) :=
    rfl
  rw [execute_of_ready hready, ← hsettle, ← hnone]

theorem sent_execute (h : c.ready = true) (hline : Unbroken line)
    (hfault : c.network.nextTurn.fault ≠ some .write) :
    (c.execute line).2.sent = c.sent ++ [wire line] := by
  rw [execute_of_ready h, sent_settle, sent_ask_eq, sent_send hline hfault]

theorem execute_of_not_ready (h : c.ready = false) (line : Text) :
    c.execute line = (notConnectedFrame, { c with status := notConnected }) := by
  simp [execute, h]

/-- The frame that a request gives is the next one of what the daemon sends, or that of a session
without a connection. -/
theorem execute_fst_cases (line : Text) (c : Client) :
    (c.execute line).1 = (Frame.read c.deadline c.answering).1 ∨
      (c.execute line).1 = notConnectedFrame := by
  cases hready : c.ready with
  | false => exact .inr (by rw [execute_of_not_ready hready])
  | true =>
    by_cases h : c.GetsThrough line
    · exact .inl (by rw [execute_of_getsThrough hready h, settle])
    · exact .inr (by rw [execute_of_not_getsThrough hready h])

theorem query_snd (line : Text) (c : Client) : (c.query line).2 = (c.execute line).2 := by
  cases h : c.ready with
  | false => simp [query, execute, h]
  | true => simp [query, h]

/-! ## Login -/

/-- Whether a greeting lets the login go on. -/
def welcomes (greeting : Text) : Bool := !(greeting.isEmpty || ['@', '1'].isPrefixOf greeting)

theorem welcomes_iff {greeting : Text} :
    welcomes greeting = true ↔ greeting ≠ [] ∧ ¬ ['@', '1'] <+: greeting := by
  simp [welcomes, List.isPrefixOf_iff_prefix, ← Bool.not_eq_true]

/-- The attempt to connect that a client makes. -/
def attempt (c : Client) : Attempt := ⟨c.account.host, c.account.port, c.account.connectTimeout⟩

/-- Why connecting fails outright: the attempt cannot be made, or the daemon accepts it and then the
time to wait for reading cannot be set. -/
def connectFailure? (c : Client) : Option Failure :=
  match c.network.sockets.attemptFailure c.attempt with
  | some failure => some failure
  | none =>
    if c.network.daemon.refuses then none
    else c.network.sockets.timeoutFailure c.account.readTimeout

theorem attemptFailure_eq_none (h : c.connectFailure? = none) :
    c.network.sockets.attemptFailure c.attempt = none := by
  rw [connectFailure?] at h
  split at h
  · cases h
  · assumption

theorem timeoutFailure_eq_none (h : c.connectFailure? = none)
    (haccepts : c.network.daemon.refuses = false) :
    c.network.sockets.timeoutFailure c.account.readTimeout = none := by
  rwa [connectFailure?, attemptFailure_eq_none h, haccepts] at h

/-- Nothing but the account, the sockets and whether the daemon refuses has a part in that. -/
theorem connectFailure?_congr (haccount : d.account = c.account)
    (hsockets : d.network.sockets = c.network.sockets)
    (hrefuses : d.network.daemon.refuses = c.network.daemon.refuses) :
    d.connectFailure? = c.connectFailure? := by
  rw [connectFailure?, connectFailure?, attempt, attempt, haccount, hsockets, hrefuses]

/-- The network once the attempt to connect is made. -/
def attempted (c : Client) : Network :=
  { c.network with log := { c.network.log with attempts := c.network.log.attempts ++ [c.attempt] } }

/-- The network once the daemon has accepted the attempt and the time to wait is given. -/
def accepted (c : Client) : Network :=
  { c.attempted.takeTurn with
    log := { c.attempted.log with
      readTimeouts := c.network.log.readTimeouts ++ [c.account.readTimeout] } }

/-- The client once its connection is accepted. -/
def dialed (c : Client) : Client :=
  { c with
    network := c.accepted
    held := [.stream, .socket]
    phase := .authenticating }

/-- The client once its connection is refused. -/
def rebuffed (c : Client) : Client := { c with network := c.attempted }

/-- The client once connecting has failed outright. If the daemon had accepted, the connection is
lost without having been closed. -/
def stranded (c : Client) : Client :=
  { c with
    network :=
      if (c.network.sockets.attemptFailure c.attempt).isSome then c.attempted
      else { c.accepted with stream := { c.accepted.stream with unread := [] } } }

theorem isFailureStatus_eq_false_iff {status : Text} :
    isFailureStatus status = false ↔ 2 ≤ status.length ∧ ¬ ['@', '1'] <+: status := by
  rw [isFailureStatus, Bool.or_eq_false_iff, decide_eq_false_iff_not, Nat.not_lt,
    ← Bool.not_eq_true, List.isPrefixOf_iff_prefix]

/-- What a login comes to, by the answer to its line. -/
def enter : Option Frame × Client → Bool × Client
  | (some frame, d) =>
    if isFailureStatus frame.status then
      (false, d.fail (if frame.status.isEmpty then notConnected else frame.status))
    else (true, { d with status := frame.status, phase := .ready })
  | (none, d) => (false, d.fail notConnected)

theorem enter_none (d : Client) : enter (none, d) = (false, d.fail notConnected) := rfl

theorem enter_of_accepted {frame : Frame} (h : isFailureStatus frame.status = false) (d : Client) :
    enter (some frame, d) = (true, { d with status := frame.status, phase := .ready }) := by
  simp [enter, h]

theorem enter_of_failure {frame : Frame} (h : isFailureStatus frame.status = true) (d : Client) :
    enter (some frame, d) =
      (false, d.fail (if frame.status.isEmpty then notConnected else frame.status)) := by
  simp [enter, h]

/-- A login makes the session ready if the answer's status is no failure, and ends it otherwise. -/
theorem enter_cases (asked : Option Frame × Client) :
    (∃ frame, asked.1 = some frame ∧ isFailureStatus frame.status = false ∧
      enter asked = (true, { asked.2 with status := frame.status, phase := .ready })) ∨
      ∃ status, enter asked = (false, asked.2.fail status) := by
  rcases asked with ⟨_ | frame, d⟩
  · exact .inr ⟨notConnected, rfl⟩
  · cases h : isFailureStatus frame.status with
    | false => exact .inl ⟨frame, rfl, h, enter_of_accepted h d⟩
    | true => exact .inr ⟨_, enter_of_failure h d⟩

theorem authenticate_eq (c : Client) :
    c.authenticate =
      if welcomes c.readGreeting.1 then
        enter (c.readGreeting.2.ask (loginLine c.account))
      else (false, c.readGreeting.2.fail notConnected) := by
  -- the login line is that of the account, which reading the greeting leaves alone
  have haccount := (kept_readGreeting c).account
  rw [authenticate, welcomes, ← haccount]
  rcases c.readGreeting with ⟨greeting, d⟩
  cases hw : (greeting.isEmpty || ['@', '1'].isPrefixOf greeting) with
  | true => simp [hw]
  | false =>
    simp only [hw, Bool.not_false, if_true, ask]
    rcases d.send (loginLine d.account) with ⟨_ | _, e⟩ <;> rfl

@[simp] theorem sent_dialed (c : Client) : c.dialed.sent = c.sent := rfl

@[simp] theorem sent_rebuffed (c : Client) : c.rebuffed.sent = c.sent := rfl

/-- What a client that is stranded has done: it has made one more attempt to connect. -/
structure Stranded (c d : Client) : Prop where
  account : d.account = c.account
  phase : d.phase = c.phase
  status : d.status = c.status
  held : d.held = c.held
  sockets : d.network.sockets = c.network.sockets
  refuses : d.network.daemon.refuses = c.network.daemon.refuses
  attempts : d.network.log.attempts = c.network.log.attempts ++ [c.attempt]
  sent : d.sent = c.sent
  closed : d.network.log.closed = c.network.log.closed

theorem stranded_stranded (c : Client) : Stranded c c.stranded := by
  rw [stranded]
  split <;> constructor <;> rfl

theorem connect_of_fails {failure : Failure} (h : c.phase = .disconnected)
    (hfails : c.connectFailure? = some failure) : c.connect = (.error failure, c.stranded) := by
  rw [connectFailure?] at hfails
  -- it is the attempt that fails, or else the time to wait once the daemon has accepted
  cases hattempt : c.network.sockets.attemptFailure c.attempt with
  | some other =>
    rw [hattempt] at hfails
    cases hfails
    rw [attempt] at hattempt
    simp only [connect, h, Network.connect, stranded, attempted, attempt, hattempt, if_true,
      Option.isSome_some]
  | none =>
    rw [hattempt] at hfails
    cases hrefuses : c.network.daemon.refuses with
    | true => simp [hrefuses] at hfails
    | false =>
      simp only [hrefuses, Bool.false_eq_true, if_false] at hfails
      rw [attempt] at hattempt
      simp only [connect, h, Network.connect, Network.setReadTimeout, Network.takeTurn, stranded,
        accepted, attempted, attempt, hattempt, hrefuses, hfails, if_true, Option.isSome_none,
        Bool.false_eq_true, if_false]

theorem connect_of_disconnected (h : c.phase = .disconnected) (hfits : c.connectFailure? = none) :
    c.connect =
      if c.network.daemon.refuses then (.ok false, c.rebuffed.fail notConnected)
      else (.ok c.dialed.authenticate.1, c.dialed.authenticate.2) := by
  have hattempt := attemptFailure_eq_none hfits
  rw [attempt] at hattempt
  cases hrefuses : c.network.daemon.refuses with
  | true =>
    simp only [connect, h, Network.connect, rebuffed, attempted, attempt, hattempt, hrefuses, if_true]
  | false =>
    have htimeout := timeoutFailure_eq_none hfits hrefuses
    simp only [connect, h, Network.connect, Network.setReadTimeout, Network.takeTurn, dialed,
      accepted, attempted, attempt, hattempt, hrefuses, htimeout, if_true, Bool.false_eq_true, if_false]

/-- Connecting fails outright exactly if sockets do not take the account. -/
theorem connect_eq_error_iff (h : c.phase = .disconnected) {failure : Failure} :
    c.connect.1 = .error failure ↔ c.connectFailure? = some failure := by
  cases hfails : c.connectFailure? with
  | some other =>
    rw [connect_of_fails h hfails, Except.error.injEq, Option.some.injEq]
  | none =>
    rw [connect_of_disconnected h hfails]
    split <;> exact iff_of_false nofun nofun

theorem exists_connect_eq_ok_iff (h : c.phase = .disconnected) :
    (∃ success, c.connect.1 = .ok success) ↔ c.connectFailure? = none := by
  cases hfails : c.connectFailure? with
  | some failure =>
    rw [connect_of_fails h hfails]
    exact iff_of_false nofun nofun
  | none =>
    rw [connect_of_disconnected h hfails]
    split <;> exact iff_of_true ⟨_, rfl⟩ rfl

theorem connect_of_not_disconnected (h : c.phase ≠ .disconnected) :
    c.connect = (.ok c.ready, c) := by
  rw [connect, if_neg h]

end Client
end SearchClient
