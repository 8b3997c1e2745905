import SearchClient.Proofs.Session.Framing
import SearchClient.Proofs.Session.Runs

/-!
# What is on the wire

A transcript is a record, beside a session, of what it was given and what it heard: the answer to
its login line, and each request handed to it while it was ready together with the answer to that.
The lines sent are then read off it: they are the login line and the requests in their order, up
to a last one that may have failed, and each of them but the last was answered by a whole frame.

`Client.Recorded` is the invariant of a client and its transcript, `Client.recorded_act` the law
of one step. A step matters only where the session is ready or about to log in; the two lemmas
before it, `Recorded.ask` and `Recorded.login`, are about these.
-/

namespace SearchClient

/-- A line handed to the connection and the frame that answered it, if one was read. -/
structure Exchange where
  line : Text
  reply : Option Frame

/-- The reply came, with its status line. -/
def Exchange.Answered (e : Exchange) : Prop := ∃ frame, e.reply = some frame ∧ frame.complete = true

/-- What a session was given and what it heard. -/
structure Transcript where
  login : Option Frame := none
  requests : List Exchange := []

/-- The daemon let the client in: its answer to the login has a status with a code that is no
failure. -/
def Transcript.Welcome (t : Transcript) : Prop :=
  ∃ frame, t.login = some frame ∧ frame.complete = true ∧ isFailureStatus frame.status = false

/-- The lines that a transcript of an account's client accounts for. -/
def Transcript.lines (account : Account) (t : Transcript) : List Text :=
  Client.loginLine account :: t.requests.map Exchange.line

namespace Client

variable {account : Account} {c d : Client} {t : Transcript}

/-! ## Keeping a transcript -/

/-- The frame that answers the login line when a client connects, if it comes to that. -/
def loginReply (c : Client) : Option Frame :=
  if c.connectFailure?.isSome || c.network.daemon.refuses then none
  else if welcomes c.dialed.readGreeting.1 then
    (c.dialed.readGreeting.2.ask (loginLine c.account)).1
  else none

/-- The transcript after one more step of the client. -/
def note (c : Client) (t : Transcript) : Step → Transcript
  | .connect => if c.phase = .disconnected then { t with login := c.loginReply } else t
  | .execute line =>
    if c.ready then { t with requests := t.requests ++ [⟨line, (c.ask line).1⟩] } else t
  | .close => t

/-- The transcript after more steps of the client. -/
def noteAll (c : Client) (t : Transcript) : List Step → Transcript
  | [] => t
  | step :: steps => (c.act step).noteAll (c.note t step) steps

/-- The transcript of a run. -/
def transcript (c : Client) (run : List Operation) : Transcript := c.noteAll {} (stepsOf run c)

/-! ## The invariant -/

/-- A transcript tells what was sent. While the session is ready, all of it was sent and all of it
answered; the session may have ended on the last line. -/
structure Recorded (account : Account) (c : Client) (t : Transcript) : Prop where
  account_eq : c.account = account
  prefix_lines : c.sent <+: (t.lines account).map wire
  unbroken : ∀ octets ∈ c.sent, ∃ line, Unbroken line ∧ octets = wire line
  untouched : c.phase = .disconnected → c.sent = [] ∧ t.requests = []
  all_sent : c.phase = .ready → c.sent = (t.lines account).map wire
  all_answered : c.phase = .ready → t.Welcome ∧ ∀ e ∈ t.requests, e.Answered
  welcome : 1 < c.sent.length → t.Welcome
  answered : ∀ i e, t.requests[i]? = some e → i + 2 < c.sent.length → e.Answered

theorem recorded_fresh (account : Account) (daemon : Daemon) (now : Binary64) (sockets : Sockets) :
    Recorded account (fresh account daemon now sockets) {} := by
  constructor <;> simp [fresh, sent]

theorem Recorded.of_closed (h : Recorded account c t) (haccount : d.account = c.account)
    (hsent : d.sent = c.sent) (hphase : d.phase = .closed) : Recorded account d t where
  account_eq := haccount.trans h.account_eq
  prefix_lines := by rw [hsent]; exact h.prefix_lines
  unbroken := by rw [hsent]; exact h.unbroken
  untouched := by rw [hphase]; nofun
  all_sent := by rw [hphase]; nofun
  all_answered := by rw [hphase]; nofun
  welcome := by rw [hsent]; exact h.welcome
  answered := by rw [hsent]; exact h.answered

theorem Recorded.with_status (h : Recorded account c t) (status : Text) :
    Recorded account { c with status := status } t :=
  ⟨h.account_eq, h.prefix_lines, h.unbroken, h.untouched, h.all_sent, h.all_answered, h.welcome, h.answered⟩

/-! ## A line asked -/

/-- What becomes of a session by a line that is asked over it: the line was sent or failed before
that, and the session goes on only if the line was sent and the answer is as wanted. -/
structure Asked (c d : Client) (line : Text) (wanted : Prop) : Prop where
  account : d.account = c.account
  sent : d.sent = c.sent ∨ Unbroken line ∧ d.sent = c.sent ++ [wire line]
  ends : d.phase = .closed ∨ d.phase = .ready ∧ wanted ∧ d.sent = c.sent ++ [wire line]

namespace Asked

variable {line : Text} {wanted : Prop}

theorem not_disconnected (h : Asked c d line wanted) : d.phase ≠ .disconnected := by
  intro hphase
  rcases h.ends with hends | ⟨hends, -⟩ <;> exact absurd (hphase.symm.trans hends) nofun

theorem of_ready (h : Asked c d line wanted) (hphase : d.phase = .ready) :
    wanted ∧ d.sent = c.sent ++ [wire line] := by
  rcases h.ends with hends | ⟨-, hwanted⟩
  · exact absurd (hphase.symm.trans hends) nofun
  · exact hwanted

theorem prefix_sent (h : Asked c d line wanted) : d.sent <+: c.sent ++ [wire line] := by
  rcases h.sent with hsent | ⟨-, hsent⟩
  · exact hsent ▸ List.prefix_append d.sent _
  · exact hsent ▸ List.prefix_refl d.sent

theorem unbroken_sent (h : Asked c d line wanted)
    (hall : ∀ octets ∈ c.sent, ∃ line, Unbroken line ∧ octets = wire line) :
    ∀ octets ∈ d.sent, ∃ line, Unbroken line ∧ octets = wire line := by
  rcases h.sent with hsent | ⟨hline, hsent⟩
  · rw [hsent]
    exact hall
  · intro octets hmem
    rw [hsent, List.mem_append, List.mem_singleton] at hmem
    rcases hmem with hmem | rfl
    · exact hall octets hmem
    · exact ⟨line, hline, rfl⟩

end Asked

theorem sent_ask_or (line : Text) (c : Client) :
    (c.ask line).2.sent = c.sent ∨ Unbroken line ∧ (c.ask line).2.sent = c.sent ++ [wire line] := by
  rcases sent_ask line c with ⟨-, h⟩ | h
  · exact .inl h
  · exact .inr h

theorem sent_of_reply {line : Text} {frame : Frame} (h : (c.ask line).1 = some frame) :
    (c.ask line).2.sent = c.sent ++ [wire line] := by
  rcases sent_ask line c with ⟨hnone, -⟩ | ⟨-, hsent⟩
  · rw [hnone] at h
    exact absurd h nofun
  · exact hsent

theorem asked_settle (hready : c.phase = .ready) (line : Text) :
    Asked c (settle (c.ask line)).2 line (Exchange.Answered ⟨line, (c.ask line).1⟩) := by
  have hkept := kept_ask line c
  have hsent := sent_ask_or line c
  rcases settle_cases (c.ask line) with ⟨frame, hreply, hcomplete, h⟩ | ⟨status, h⟩
  · rw [h]
    refine ⟨hkept.account, hsent, .inr ⟨?_, ⟨frame, hreply, hcomplete⟩, sent_of_reply hreply⟩⟩
    exact hkept.phase.trans hready
  · rw [h]
    refine ⟨?_, ?_, .inl (phase_fail _ status)⟩
    · rw [account_fail, hkept.account]
    · rwa [sent_fail]

theorem complete_of_reply {line : Text} {frame : Frame} (h : (c.ask line).1 = some frame)
    (hstatus : frame.status ≠ []) : frame.complete = true := by
  rw [ask] at h
  rcases hsend : c.send line with ⟨_ | _, d⟩
  · rw [hsend] at h
    cases h
  · rw [hsend] at h
    cases h
    exact Frame.complete_of_status_ne_nil _ _ hstatus

theorem ne_nil_of_not_failure {status : Text} (h : isFailureStatus status = false) :
    status ≠ [] := by
  rintro rfl
  exact absurd h (by decide)

theorem asked_enter (line : Text) (c : Client) :
    Asked c (enter (c.ask line)).2 line (Transcript.Welcome { login := (c.ask line).1 }) := by
  have hkept := kept_ask line c
  have hsent := sent_ask_or line c
  rcases enter_cases (c.ask line) with ⟨frame, hreply, hstatus, h⟩ | ⟨status, h⟩
  · have hcomplete := complete_of_reply hreply (ne_nil_of_not_failure hstatus)
    rw [h]
    exact ⟨hkept.account, hsent,
      .inr ⟨rfl, ⟨frame, hreply, hcomplete, hstatus⟩, sent_of_reply hreply⟩⟩
  · rw [h]
    refine ⟨?_, ?_, .inl (phase_fail _ status)⟩
    · rw [account_fail, hkept.account]
    · rwa [sent_fail]

theorem asked_fail {line : Text} {wanted : Prop} (haccount : d.account = c.account)
    (hsent : d.sent = c.sent) (status : Text) : Asked c (d.fail status) line wanted := by
  refine ⟨?_, .inl ?_, .inl (phase_fail d status)⟩
  · rw [account_fail, haccount]
  · rw [sent_fail, hsent]

theorem asked_connect (hphase : c.phase = .disconnected) (hfits : c.connectFailure? = none) :
    Asked c c.connect.2 (loginLine c.account) (Transcript.Welcome { login := c.loginReply }) := by
  rw [connect_of_disconnected hphase hfits, loginReply, hfits, Option.isSome_none, Bool.false_or]
  cases hrefuses : c.network.daemon.refuses with
  | true =>
    simp only [if_true]
    exact asked_fail (c := c) (d := c.rebuffed) rfl (sent_rebuffed c) notConnected
  | false =>
    have hdialed : c.dialed.readGreeting.2.sent = c.sent :=
      (congrArg Log.sent (log_readGreeting c.dialed)).trans (sent_dialed c)
    have haccount : c.dialed.readGreeting.2.account = c.account :=
      (kept_readGreeting c.dialed).account
    simp only [Bool.false_eq_true, if_false]
    rw [authenticate_eq]
    cases hwelcomes : welcomes c.dialed.readGreeting.1 with
    | false => exact asked_fail haccount hdialed notConnected
    | true =>
      have h := asked_enter (loginLine c.account) c.dialed.readGreeting.2
      have hsent := h.sent
      have hends := h.ends
      rw [hdialed] at hsent hends
      exact ⟨h.account.trans haccount, hsent, hends⟩

/-! ## Steps -/

theorem lines_append (account : Account) (t : Transcript) (e : Exchange) :
    ({ t with requests := t.requests ++ [e] }.lines account).map wire =
      (t.lines account).map wire ++ [wire e.line] := by
  simp [Transcript.lines]

theorem Recorded.ask (h : Recorded account c t) (hready : c.phase = .ready) {e : Exchange}
    (hasked : Asked c d e.line e.Answered) :
    Recorded account d { t with requests := t.requests ++ [e] } := by
  have hall : c.sent = (t.lines account).map wire := h.all_sent hready
  have hlines := lines_append account t e
  rw [← hall] at hlines
  have hlength : c.sent.length = t.requests.length + 1 := by
    rw [hall]
    simp [Transcript.lines]
  have hle := hasked.prefix_sent.length_le
  rw [List.length_append, hlength, List.length_singleton] at hle
  rcases h.all_answered hready with ⟨hwelcome, hanswered⟩
  constructor
  case account_eq => exact hasked.account.trans h.account_eq
  case prefix_lines =>
    rw [hlines]
    exact hasked.prefix_sent
  case unbroken => exact hasked.unbroken_sent h.unbroken
  case untouched => exact fun hphase => absurd hphase hasked.not_disconnected
  case all_sent =>
    intro hphase
    rw [hlines]
    exact (hasked.of_ready hphase).2
  case all_answered =>
    intro hphase
    refine ⟨hwelcome, ?_⟩
    intro e' hmem
    rw [List.mem_append, List.mem_singleton] at hmem
    rcases hmem with hmem | rfl
    · exact hanswered e' hmem
    · exact (hasked.of_ready hphase).1
  case welcome => exact fun _ => hwelcome
  case answered =>
    -- the new request is the last one, so what is followed by another was asked before it
    intro i e' hget hi
    rw [List.getElem?_append_left (by omega)] at hget
    exact hanswered e' (List.mem_of_getElem? hget)

theorem Recorded.login (h : Recorded account c t) (hphase : c.phase = .disconnected)
    {reply : Option Frame}
    (hasked : Asked c d (loginLine c.account) (Transcript.Welcome { login := reply })) :
    Recorded account d { t with login := reply } := by
  rcases h.untouched hphase with ⟨hnone, hrequests⟩
  have hlines : ({ t with login := reply }.lines account).map wire =
      c.sent ++ [wire (loginLine c.account)] := by
    simp [Transcript.lines, hrequests, hnone, h.account_eq]
  have hle := hasked.prefix_sent.length_le
  rw [hnone, List.nil_append, List.length_singleton] at hle
  constructor
  case account_eq => exact hasked.account.trans h.account_eq
  case prefix_lines =>
    rw [hlines]
    exact hasked.prefix_sent
  case unbroken => exact hasked.unbroken_sent h.unbroken
  case untouched => exact fun hphase => absurd hphase hasked.not_disconnected
  case all_sent =>
    intro hphase
    rw [hlines]
    exact (hasked.of_ready hphase).2
  case all_answered =>
    intro hphase
    refine ⟨(hasked.of_ready hphase).1, ?_⟩
    rw [hrequests]
    nofun
  -- nothing stands behind the login line yet
  case welcome => exact fun hlt => by omega
  case answered => exact fun i e _ hi => by omega

/-- Connecting that fails outright leaves nothing to tell. -/
theorem Recorded.stranded (h : Recorded account c t) (hphase : c.phase = .disconnected)
    (hstranded : Stranded c d) : Recorded account d { t with login := none } := by
  rcases h.untouched hphase with ⟨hnone, hrequests⟩
  have hsent : d.sent = [] := hstranded.sent.trans hnone
  have hstill : d.phase = .disconnected := hstranded.phase.trans hphase
  constructor
  case account_eq => exact hstranded.account.trans h.account_eq
  case prefix_lines => exact hsent ▸ List.nil_prefix
  case unbroken => exact hsent ▸ nofun
  case untouched => exact fun _ => ⟨hsent, hrequests⟩
  case all_sent => exact fun hready => absurd (hstill.symm.trans hready) nofun
  case all_answered => exact fun hready => absurd (hstill.symm.trans hready) nofun
  case welcome => exact fun hlt => by simp [hsent] at hlt
  case answered => exact fun i e _ hi => by simp [hsent] at hi

theorem ready_iff (c : Client) : c.ready = true ↔ c.phase = .ready := by
  simp [ready]

theorem recorded_act (h : Recorded account c t) (step : Step) :
    Recorded account (c.act step) (c.note t step) := by
  cases step with
  | connect =>
    by_cases hphase : c.phase = .disconnected
    · rw [note, if_pos hphase]
      cases hfails : c.connectFailure? with
      | none => exact h.login hphase (asked_connect hphase hfails)
      | some failure =>
        have hsilent : c.loginReply = none := by simp [loginReply, hfails]
        rw [act, connect_of_fails hphase hfails, hsilent]
        exact h.stranded hphase (stranded_stranded c)
    · rw [note, if_neg hphase, act, connect_of_not_disconnected hphase]
      exact h
  | execute line =>
    cases hready : c.ready with
    | true =>
      have hphase := (ready_iff c).1 hready
      simp only [note, act, hready, if_true]
      rw [execute_of_ready hready]
      exact h.ask hphase (asked_settle hphase line)
    | false =>
      simp only [note, act, hready, Bool.false_eq_true, if_false]
      rw [execute_of_not_ready hready]
      exact h.with_status notConnected
  | close => exact h.of_closed (account_close c) (sent_close c) (phase_close c)

/-! ## Runs -/

theorem recorded_acts (steps : List Step) (h : Recorded account c t) :
    Recorded account (c.acts steps) (c.noteAll t steps) := by
  induction steps generalizing c t with
  | nil => exact h
  | cons step steps ih => exact ih (recorded_act h step)

theorem recorded_after (account : Account) (daemon : Daemon) (now : Binary64) (sockets : Sockets)
    (run : List Operation) :
    Recorded account ((fresh account daemon now sockets).after run)
      ((fresh account daemon now sockets).transcript run) := by
  rw [after_eq_acts]
  exact recorded_acts _ (recorded_fresh account daemon now sockets)

/-- **What may be on the wire.** Against every daemon, over any sockets and after every run, the lines
sent are the login line and the requests handed over while the session was ready, in order and up to a last one
that may have failed. Each has one line feed, its last octet, and no carriage return. If anything
follows the login line, the login was answered by a status with a code that is no failure; and a
request is followed by another only if a whole frame answered it. -/
theorem sent_after (account : Account) (daemon : Daemon) (now : Binary64) (sockets : Sockets)
    (run : List Operation) :
    let c := (fresh account daemon now sockets).after run
    let t := (fresh account daemon now sockets).transcript run
    c.network.log.sent <+: (loginLine account :: t.requests.map Exchange.line).map wire ∧
      (∀ octets ∈ c.network.log.sent, ∃ body, octets = body ++ [10] ∧ 10 ∉ body ∧ 13 ∉ body) ∧
      (1 < c.network.log.sent.length → ∃ frame, t.login = some frame ∧ frame.complete = true ∧
        2 ≤ frame.status.length ∧ ¬ ['@', '1'] <+: frame.status) ∧
      (∀ i e, t.requests[i]? = some e → i + 2 < c.network.log.sent.length →
        ∃ frame, e.reply = some frame ∧ frame.complete = true) := by
  intro c t
  have h : Recorded account c t := recorded_after account daemon now sockets run
  refine ⟨h.prefix_lines, ?_, ?_, h.answered⟩
  · intro octets hmem
    rcases h.unbroken octets hmem with ⟨line, hline, rfl⟩
    exact ⟨Latin1.encode line, wire_eq line, not_mem_encode hline⟩
  · intro hlt
    rcases h.welcome hlt with ⟨frame, hlogin, hcomplete, hstatus⟩
    exact ⟨frame, hlogin, hcomplete, isFailureStatus_eq_false_iff.1 hstatus⟩

end Client
end SearchClient
