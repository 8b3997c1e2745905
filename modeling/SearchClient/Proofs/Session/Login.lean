import SearchClient.Proofs.Session.InStep
import SearchClient.Proofs.Session.Reading

/-!
# When a login succeeds

A client that connects goes through a fixed series of conditions: the connection is accepted, the
daemon greets, the account's words are one line each, the line gets through, and the reply to it has a
status that reports no failure. `Client.Presentable` are those before the login line is written, and
`Client.LetThrough` and `Client.loginFrame` are about the line and its reply. All are said by what the
daemon does at its first two turns. Before any of them, the sockets have to take the host, the port and
the times of the account; if they do not, connecting fails and nothing tells whether it succeeded.

1. `Client.readGreeting_fst` and `Client.readGreeting_dialed` say what the greeting is and what it
   leaves of the network;
2. `Client.connect_of_not_presentable`, `Client.connect_of_not_letThrough` and
   `Client.connect_of_letThrough` are the three courses that connecting takes if it does not fail;
3. `Client.login_succeeds_iff` says which of them ends in a ready session, and what the others leave;
4. `Client.unusable_host_leaves_login_open` is a host that sockets do not take.
-/

namespace SearchClient

namespace Client

variable {c d : Client}

/-! ## The conditions of a login -/

/-- The first line that comes on the connection has text in it and reports no failure. -/
def Greeted (c : Client) : Prop :=
  ∃ line later, c.answering.lines = line :: later ∧
    Frame.characters line ≠ [] ∧ ¬ ['@', '1'] <+: Frame.characters line

/-- What is needed before the login line is written. -/
structure Presentable (c : Client) : Prop where
  accepted : c.network.daemon.refuses = false
  greeted : c.Greeted
  username : Unbroken c.account.username
  password : Unbroken c.account.password

/-- The client after one turn of the daemon and one read, which is that of the greeting. -/
def beforeLogin (c : Client) : Client :=
  { c with network := { c.network.takeTurn with stream := c.answering.readLine.2 } }

/-- The daemon lets the line behind the greeting through. -/
def LetThrough (c : Client) : Prop := c.beforeLogin.network.nextTurn.fault = none

instance (c : Client) : Decidable c.LetThrough := inferInstanceAs (Decidable (_ = _))

/-- The frame that answers the line behind the greeting. -/
def loginFrame (c : Client) : Frame :=
  (Frame.read c.beforeLogin.deadline c.beforeLogin.answering).1

/-! ## The greeting -/

/-- The greeting is the first line that there is to read, and empty if there is none. -/
theorem readGreeting_fst (c : Client) :
    c.readGreeting.1 = (c.network.stream.lines.head?.map Frame.characters).getD [] := by
  rw [readGreeting]
  cases hlines : c.network.stream.lines with
  | nil =>
    rcases (Stream.readLine_of_no_lines hlines).1 with hread | hread <;> rw [hread] <;> rfl
  | cons line later =>
    rw [(Stream.readLine_of_lines hlines).1]
    exact Frame.lineText_eq_characters line

/-- The network in which the login line is sent. -/
theorem readGreeting_dialed (c : Client) :
    ∃ log : Log, log.sent = c.sent ∧
      c.dialed.readGreeting.2 =
        { c.beforeLogin with
          network := { c.beforeLogin.network with log }
          held := [.stream, .socket]
          phase := .authenticating } := by
  rw [readGreeting_snd]
  exact ⟨c.accepted.log, rfl, rfl⟩

theorem welcomes_dialed_iff (c : Client) : welcomes c.dialed.readGreeting.1 = true ↔ c.Greeted := by
  have hstream : c.dialed.network.stream = c.answering := rfl
  rw [readGreeting_fst, hstream, Greeted, welcomes_iff]
  cases c.answering.lines <;> simp

/-! ## The courses of a login -/

theorem connect_of_greeted (hphase : c.phase = .disconnected) (hfits : c.connectFailure? = none)
    (haccepted : c.network.daemon.refuses = false) (hgreeted : c.Greeted) :
    c.connect =
      (enter (c.dialed.readGreeting.2.ask (loginLine c.account))).map Except.ok id := by
  rw [connect_of_disconnected hphase hfits, if_neg (by simp [haccepted]), authenticate_eq,
    if_pos ((welcomes_dialed_iff c).2 hgreeted)]
  rfl

/-- Without a greeting, or with a line break in the account, no line is sent. -/
theorem connect_of_not_presentable (hphase : c.phase = .disconnected)
    (hfits : c.connectFailure? = none) (h : ¬ c.Presentable) :
    ∃ d : Client, c.connect = (.ok false, d.fail notConnected) ∧ d.sent = c.sent := by
  cases hrefuses : c.network.daemon.refuses with
  | true =>
    refine ⟨c.rebuffed, ?_, sent_rebuffed c⟩
    rw [connect_of_disconnected hphase hfits, if_pos hrefuses]
  | false =>
    obtain ⟨log, hsent, hdialed⟩ := readGreeting_dialed c
    have hsame : c.dialed.readGreeting.2.sent = c.sent := by
      rw [hdialed]
      exact hsent
    refine ⟨c.dialed.readGreeting.2, ?_, hsame⟩
    by_cases hgreeted : c.Greeted
    · -- the greeting is in order, so it is a word of the account that breaks the line
      have hbroken : ¬ Unbroken (loginLine c.account) := by
        intro hline
        obtain ⟨husername, hpassword⟩ := unbroken_loginLine_iff.1 hline
        exact h ⟨hrefuses, hgreeted, husername, hpassword⟩
      rw [connect_of_greeted hphase hfits hrefuses hgreeted, ask_of_broken hbroken, enter_none]
      rfl
    · rw [connect_of_disconnected hphase hfits, if_neg (by simp [hrefuses]), authenticate_eq, if_neg]
      rwa [welcomes_dialed_iff]

/-- A login line that the daemon breaks has no reply. -/
theorem connect_of_not_letThrough (hphase : c.phase = .disconnected)
    (hfits : c.connectFailure? = none) (h : c.Presentable) (hbroken : ¬ c.LetThrough) :
    ∃ d : Client, c.connect = (.ok false, d.fail notConnected) ∧
      (d.sent = c.sent ∨ d.sent = c.sent ++ [wire (loginLine c.account)]) := by
  obtain ⟨log, hlog, hdialed⟩ := readGreeting_dialed c
  -- the line is one line, so only the daemon can keep it from getting through
  have hfails : ¬ c.dialed.readGreeting.2.GetsThrough (loginLine c.account) := by
    rw [hdialed]
    exact fun hthrough => hbroken hthrough.2
  obtain ⟨hnone, -⟩ := ask_of_not_getsThrough hfails
  refine ⟨(c.dialed.readGreeting.2.ask (loginLine c.account)).2, ?_, ?_⟩
  · have henter : enter (c.dialed.readGreeting.2.ask (loginLine c.account)) =
        (false, (c.dialed.readGreeting.2.ask (loginLine c.account)).2.fail notConnected) := by
      rw [← enter_none, ← hnone]
    rw [connect_of_greeted hphase hfits h.accepted h.greeted, henter]
    rfl
  · have hsame : c.dialed.readGreeting.2.sent = c.sent := by
      rw [hdialed]
      exact hlog
    rcases sent_ask (loginLine c.account) c.dialed.readGreeting.2 with ⟨-, hsent⟩ | ⟨-, hsent⟩
    · exact .inl (hsent.trans hsame)
    · exact .inr (by rw [hsent, hsame])

/-- A login line that gets through is decided by its reply. -/
theorem connect_of_letThrough (hphase : c.phase = .disconnected) (hfits : c.connectFailure? = none)
    (h : c.Presentable) (hthrough : c.LetThrough) :
    ∃ d : Client, c.connect = (enter (some c.loginFrame, d)).map Except.ok id ∧
      d.sent = c.sent ++ [wire (loginLine c.account)] := by
  obtain ⟨log, hlog, hdialed⟩ := readGreeting_dialed c
  have hline : c.dialed.readGreeting.2.GetsThrough (loginLine c.account) := by
    rw [hdialed]
    exact ⟨unbroken_loginLine h.username h.password, hthrough⟩
  obtain ⟨hreply, -, hsent⟩ := ask_of_getsThrough hline
  have hframe : (c.dialed.readGreeting.2.ask (loginLine c.account)).1 = some c.loginFrame := by
    rw [hreply, hdialed]
    rfl
  refine ⟨(c.dialed.readGreeting.2.ask (loginLine c.account)).2, ?_, ?_⟩
  · rw [connect_of_greeted hphase hfits h.accepted h.greeted, ← hframe]
  · rw [hsent, hdialed]
    exact congrArg (· ++ [wire (loginLine c.account)]) hlog

theorem connect_of_accepted (hphase : c.phase = .disconnected) (hfits : c.connectFailure? = none)
    (h : c.Presentable) (hthrough : c.LetThrough)
    (hstatus : isFailureStatus c.loginFrame.status = false) :
    c.connect.1 = .ok true ∧ c.connect.2.phase = .ready ∧
      c.connect.2.status = c.loginFrame.status ∧
      c.connect.2.sent = c.sent ++ [wire (loginLine c.account)] := by
  obtain ⟨d, hconnect, hsent⟩ := connect_of_letThrough hphase hfits h hthrough
  rw [hconnect, enter_of_accepted hstatus]
  exact ⟨rfl, rfl, rfl, hsent⟩

theorem connect_of_failure (hphase : c.phase = .disconnected) (hfits : c.connectFailure? = none)
    (h : c.Presentable) (hthrough : c.LetThrough)
    (hstatus : isFailureStatus c.loginFrame.status = true) :
    c.connect.1 = .ok false ∧ c.connect.2.phase = .closed ∧
      (c.loginFrame.status ≠ [] → c.connect.2.status = c.loginFrame.status) ∧
      (c.loginFrame.status = [] → c.connect.2.status = notConnected) ∧
      c.connect.2.sent = c.sent ++ [wire (loginLine c.account)] := by
  obtain ⟨d, hconnect, hsent⟩ := connect_of_letThrough hphase hfits h hthrough
  rw [hconnect, enter_of_failure hstatus]
  refine ⟨rfl, phase_fail _ _, ?_, ?_, (sent_fail _ _).trans hsent⟩
  · intro hsome
    exact if_neg (by simpa using hsome)
  · intro hnone
    exact if_pos (by simpa using hnone)

/-- A login that does not come to its reply leaves a closed session without a connection. -/
theorem connect_of_no_reply (hphase : c.phase = .disconnected) (hfits : c.connectFailure? = none)
    (h : ¬ (c.Presentable ∧ c.LetThrough)) :
    c.connect.1 = .ok false ∧ c.connect.2.phase = .closed ∧ c.connect.2.status = notConnected ∧
      (c.connect.2.sent = c.sent ∨
        c.Presentable ∧ c.connect.2.sent = c.sent ++ [wire (loginLine c.account)]) := by
  by_cases hpresentable : c.Presentable
  · have hbroken : ¬ c.LetThrough := fun hthrough => h ⟨hpresentable, hthrough⟩
    obtain ⟨d, hconnect, hsent⟩ := connect_of_not_letThrough hphase hfits hpresentable hbroken
    rw [hconnect, sent_fail]
    exact ⟨rfl, phase_fail _ _, rfl, hsent.imp_right fun hline => ⟨hpresentable, hline⟩⟩
  · obtain ⟨d, hconnect, hsent⟩ := connect_of_not_presentable hphase hfits hpresentable
    rw [hconnect, sent_fail]
    exact ⟨rfl, phase_fail _ _, rfl, .inl hsent⟩

/-- **When a login succeeds.** A client that was not connected before fails to connect exactly if the
sockets do not take its account; it is then stranded, neither ready nor closed. Otherwise it is ready
after connecting if and only if the connection is accepted, the daemon greets it by a line with text in
it that reports no failure, its username and password are one line each, the login line gets through,
and the frame that answers it has a status of two characters or more that reports no failure; this is
then the status of the session. In every other case the session is closed, with the status of that frame
if it has one, and otherwise with that of a session without a connection. Nothing is sent if a condition
fails that comes before the login line, and never more than that line. -/
theorem login_succeeds_iff {c : Client} (hphase : c.phase = .disconnected) :
    let d := c.connect.2
    let status := c.loginFrame.status
    let succeeds := c.connect.1 = .ok true ∧ d.phase = .ready
    (∀ failure, c.connect.1 = .error failure ↔ c.connectFailure? = some failure) ∧
      (c.connectFailure? ≠ none → Stranded c d) ∧
      (c.connectFailure? = none →
        (succeeds ↔
            c.Presentable ∧ c.LetThrough ∧ 2 ≤ status.length ∧ ¬ "@1".toList <+: status) ∧
          (succeeds → d.status = status) ∧
          (¬ succeeds →
            c.connect.1 = .ok false ∧ d.phase = .closed ∧
              (c.Presentable ∧ c.LetThrough ∧ status ≠ [] → d.status = status) ∧
              (¬ (c.Presentable ∧ c.LetThrough ∧ status ≠ []) →
                d.status = "@1-Not connected.".toList)) ∧
          (¬ c.Presentable → d.sent = c.sent) ∧
          (d.sent = c.sent ∨ d.sent = c.sent ++ [wire (loginLine c.account)])) := by
  intro d status succeeds
  refine ⟨fun failure => connect_eq_error_iff hphase, ?_, ?_⟩
  · intro hfails
    obtain ⟨failure, hfailure⟩ := Option.ne_none_iff_exists'.1 hfails
    have hd : d = c.stranded := congrArg Prod.snd (connect_of_fails hphase hfailure)
    rw [hd]
    exact stranded_stranded c
  · intro hfits
    by_cases h : c.Presentable ∧ c.LetThrough
    · -- there is a reply, and its status decides
      have haccepts : 2 ≤ status.length ∧ ¬ "@1".toList <+: status ↔ isFailureStatus status = false :=
        isFailureStatus_eq_false_iff.symm
      rw [and_iff_right h.1, and_iff_right h.2, and_iff_right h.1, and_iff_right h.2, haccepts]
      cases hfailure : isFailureStatus status with
      | false =>
        obtain ⟨htrue, hready, hstatus, hsent⟩ :=
          connect_of_accepted hphase hfits h.1 h.2 hfailure
        have hsucceeds : succeeds := ⟨htrue, hready⟩
        exact ⟨iff_of_true hsucceeds rfl, fun _ => hstatus, fun hnot => absurd hsucceeds hnot,
          fun hnot => absurd h.1 hnot, .inr hsent⟩
      | true =>
        obtain ⟨hfalse, hclosed, hsome, hnone, hsent⟩ :=
          connect_of_failure hphase hfits h.1 h.2 hfailure
        have hfails : ¬ succeeds := by simp [succeeds, hfalse]
        exact ⟨iff_of_false hfails nofun, fun hready => absurd hready hfails,
          fun _ => ⟨hfalse, hclosed, hsome, fun hnot => hnone (not_not.1 hnot)⟩,
          fun hnot => absurd h.1 hnot, .inr hsent⟩
    · -- there is none, and then the status of the frame does not matter
      obtain ⟨hfalse, hclosed, hstatus, hsent⟩ := connect_of_no_reply hphase hfits h
      have hfails : ¬ succeeds := by simp [succeeds, hfalse]
      refine ⟨iff_of_false hfails fun hall => h ⟨hall.1, hall.2.1⟩,
        fun hready => absurd hready hfails,
        fun _ => ⟨hfalse, hclosed, fun hall => absurd ⟨hall.1, hall.2.1⟩ h, fun _ => hstatus⟩, ?_, ?_⟩
      · intro hnot
        exact hsent.resolve_right fun hline => hnot hline.1
      · exact hsent.imp_right fun hline => hline.2

/-- A greeting with octets behind it, which are the first of the login's reply. -/
theorem login_succeeds_iff_sample :
    let account : Account :=
      { host := "localhost".toList, port := 1234, username := "anna".toList
        password := "secret".toList, connectTimeout := none, readTimeout := some (.ofInt 30) }
    let turns : List Turn :=
      [{ octets := Latin1.encode "@0-Hello\nnews ".toList },
        { octets := Latin1.encode "of today\n\n@0-Ok\n".toList }]
    let c : Client := { account, network := { daemon := { turns } } }
    c.phase = .disconnected ∧ c.connectFailure? = none ∧
      c.loginFrame.body = ["news of today".toList, []] ∧
      c.connect.1 = .ok true ∧ c.connect.2.phase = .ready ∧ c.connect.2.status = "@0-Ok".toList := by
  intro account turns c
  have hphase : c.phase = .disconnected := rfl
  have hfits : c.connectFailure? = none := by decide +kernel
  obtain ⟨-, -, hcourse⟩ := login_succeeds_iff hphase
  obtain ⟨hiff, hstatus, -⟩ := hcourse hfits
  have hgreeted : c.Greeted :=
    ⟨Latin1.encode "@0-Hello\n".toList, [], by decide +kernel, by decide +kernel, by decide +kernel⟩
  have hthrough : c.LetThrough := by decide +kernel
  have hready := hiff.2 ⟨⟨rfl, hgreeted, by decide, by decide⟩, hthrough, by decide +kernel,
    by decide +kernel⟩
  refine ⟨hphase, hfits, by decide +kernel, hready.1, hready.2, ?_⟩
  rw [hstatus hready]
  decide +kernel

/-- A host name with an empty label is not looked up at all, although the daemon would accept: the login
neither succeeds nor is it reported to have failed, and the session goes on as if nothing was tried. -/
theorem unusable_host_leaves_login_open :
    let account : Account :=
      { host := "a..b".toList, port := 1234, username := "anna".toList
        password := "secret".toList, connectTimeout := none, readTimeout := some (.ofInt 30) }
    let turns : List Turn :=
      [{ octets := Latin1.encode "@0-Hello\n".toList }, { octets := Latin1.encode "@0-Ok\n".toList }]
    let c : Client := { account, network := { daemon := { turns } } }
    c.connect.1 = .error (.unusableHost "label empty or too long".toList) ∧
      c.connect.2.phase = .disconnected ∧ c.connect.2.status = [] ∧
      c.connect.2.network.log.attempts.length = 1 := by
  decide +kernel

end Client
end SearchClient
