import SearchClient.Proofs.Session.Login
import SearchClient.Proofs.Session.Transcript

/-!
# Secrecy of the password

The password is a part of the login line and of nothing else. So two clients that differ in their
passwords alone do the same against the same daemon: they give the same answers, go through the
same phases and statuses and leave the same log, in which the login lines alone differ.

1. `Client.disguise` is a client with another password and another record of the lines sent;
2. `Client.Mirrored` says that an operation takes no notice of the disguise, and
   `Client.mirrored_execute` and `Client.mirrored_connect` say so of the two operations that send;
3. `Client.Paired` relates the two records, and `Client.act_disguise` is the law of one step;
4. `Client.password_hidden` is the law of a run.
-/

namespace SearchClient
namespace Client

variable {α β : Type} {c d : Client} {line line' password : Text} {sent : List Bytes}

/-- The client with another password and another record of the lines sent. -/
def disguise (password : Text) (sent : List Bytes) (c : Client) : Client :=
  { c with
    account := { c.account with password := password }
    network := { c.network with log := { c.network.log with sent := sent } } }

@[simp] theorem ready_disguise (c : Client) : (c.disguise password sent).ready = c.ready := rfl

/-! ## Operations in disguise -/

/-- Two records of lines grow alike: by nothing, or by one line each. -/
def GrowAlike (line line' : Text) (before before' after after' : List Bytes) : Prop :=
  after = before ∧ after' = before' ∨
    after = before ++ [wire line] ∧ after' = before' ++ [wire line']

/-- What an operation of the client `c` comes to, `x`, and what it comes to in disguise, `y`: the
same result, and the same client in disguise. The one sends `line` where the other sends `line'`. -/
def Mirrored (password line line' : Text) (c : Client) (sent : List Bytes)
    (x y : α × Client) : Prop :=
  ∃ sent', y = (x.1, x.2.disguise password sent') ∧
    GrowAlike line line' c.sent sent x.2.sent sent'

/-- What is done after that and sends nothing is mirrored too, if it takes no notice either. -/
theorem Mirrored.map {x y : α × Client} (h : Mirrored password line line' c sent x y)
    (f : α × Client → β × Client) (hsent : ∀ x, (f x).2.sent = x.2.sent)
    (hf : ∀ a d sent', f (a, d.disguise password sent') =
      ((f (a, d)).1, (f (a, d)).2.disguise password sent')) :
    Mirrored password line line' c sent (f x) (f y) := by
  obtain ⟨sent', rfl, hgrow⟩ := h
  refine ⟨sent', hf x.1 x.2 sent', ?_⟩
  rw [hsent]
  exact hgrow

theorem mirrored_send (password : Text) (h : Unbroken line ↔ Unbroken line') (c : Client)
    (sent : List Bytes) :
    Mirrored password line line' c sent (c.send line)
      ((c.disguise password sent).send line') := by
  by_cases hline : Unbroken line
  · have hturn : (c.disguise password sent).network.nextTurn = c.network.nextTurn := rfl
    rw [send_of_unbroken hline, send_of_unbroken (h.1 hline), Network.send, Network.send, hturn]
    rcases c.network.nextTurn.fault with _ | _ | _
    · exact ⟨sent ++ [wire line'], rfl, .inr ⟨rfl, rfl⟩⟩
    · exact ⟨sent, rfl, .inl ⟨rfl, rfl⟩⟩
    · exact ⟨sent ++ [wire line'], rfl, .inr ⟨rfl, rfl⟩⟩
  · rw [send_of_broken hline, send_of_broken (mt h.2 hline)]
    exact ⟨sent, rfl, .inl ⟨rfl, rfl⟩⟩

theorem mirrored_ask (password : Text) (h : Unbroken line ↔ Unbroken line') (c : Client)
    (sent : List Bytes) :
    Mirrored password line line' c sent (c.ask line) ((c.disguise password sent).ask line') := by
  obtain ⟨sent', hsend, hgrow⟩ := mirrored_send password h c sent
  rw [ask, ask, hsend]
  rcases hline : c.send line with ⟨_ | _, d⟩
  · rw [hline] at hgrow
    exact ⟨sent', rfl, hgrow⟩
  · rw [hline] at hgrow
    exact ⟨sent', rfl, hgrow⟩

theorem close_disguise (c : Client) (password : Text) (sent : List Bytes) :
    (c.disguise password sent).close = c.close.disguise password sent := by
  by_cases h : c.phase = .closed
  · simp [close, disguise, h]
  · simp [close, disguise, h, foldl_release]

theorem fail_disguise (c : Client) (password : Text) (sent : List Bytes) (status : Text) :
    (c.disguise password sent).fail status = (c.fail status).disguise password sent := by
  rw [fail, close_disguise]
  rfl

theorem settle_disguise (reply : Option Frame) (d : Client) (sent' : List Bytes) :
    settle (reply, d.disguise password sent') =
      ((settle (reply, d)).1, (settle (reply, d)).2.disguise password sent') := by
  cases reply with
  | none => rw [settle, settle, fail_disguise]
  | some frame =>
    cases hcomplete : frame.complete with
    | true => simp only [settle, hcomplete, if_true]; rfl
    | false =>
      simp only [settle, hcomplete, Bool.false_eq_true, if_false, close_with_status]
      rw [fail_disguise]

theorem enter_disguise (reply : Option Frame) (d : Client) (sent' : List Bytes) :
    enter (reply, d.disguise password sent') =
      ((enter (reply, d)).1, (enter (reply, d)).2.disguise password sent') := by
  cases reply with
  | none => rw [enter, enter, fail_disguise]
  | some frame =>
    cases hstatus : isFailureStatus frame.status with
    | true =>
      simp only [enter, hstatus, if_true]
      rw [fail_disguise]
    | false => simp only [enter, hstatus, Bool.false_eq_true, if_false]; rfl

theorem sent_enter (asked : Option Frame × Client) : (enter asked).2.sent = asked.2.sent := by
  rcases enter_cases asked with ⟨frame, -, -, h⟩ | ⟨status, h⟩
  · rw [h]
    rfl
  · rw [h, sent_fail]

/-- **A request takes no notice of the password.** -/
theorem mirrored_execute (password line : Text) (c : Client) (sent : List Bytes) :
    Mirrored password line line c sent (c.execute line)
      ((c.disguise password sent).execute line) := by
  cases hready : c.ready with
  | true =>
    rw [execute_of_ready hready, execute_of_ready (c := c.disguise password sent) hready]
    exact (mirrored_ask password Iff.rfl c sent).map settle sent_settle settle_disguise
  | false =>
    rw [execute_of_not_ready hready,
      execute_of_not_ready (c := c.disguise password sent) hready]
    exact ⟨sent, rfl, .inl ⟨rfl, rfl⟩⟩

theorem readGreeting_disguise (c : Client) (password : Text) (sent : List Bytes) :
    (c.disguise password sent).readGreeting =
      (c.readGreeting.1, c.readGreeting.2.disguise password sent) := by
  have hstream : (c.disguise password sent).network.stream = c.network.stream := rfl
  rw [readGreeting, readGreeting, hstream]
  rcases c.network.stream.readLine with ⟨read, stream⟩
  cases read <;> rfl

theorem mirrored_authenticate (hc : Unbroken c.account.password) (hp : Unbroken password)
    (sent : List Bytes) :
    Mirrored password (loginLine c.account) (loginLine { c.account with password := password }) c
      sent c.authenticate (c.disguise password sent).authenticate := by
  have hlines : Unbroken (loginLine c.account) ↔
      Unbroken (loginLine { c.account with password := password }) := by
    rw [unbroken_loginLine_iff, unbroken_loginLine_iff]
    exact and_congr_right fun _ => iff_of_true hc hp
  -- the greeting is read before the password is used for the first time
  have hgreeting : c.readGreeting.2.sent = c.sent := congrArg Log.sent (log_readGreeting c)
  rw [authenticate_eq, authenticate_eq, readGreeting_disguise]
  cases welcomes c.readGreeting.1 with
  | true =>
    have hask := (mirrored_ask password hlines c.readGreeting.2 sent).map enter
      sent_enter enter_disguise
    rw [Mirrored, hgreeting] at hask
    exact hask
  | false =>
    refine ⟨sent, ?_, .inl ⟨?_, rfl⟩⟩
    · simp only [Bool.false_eq_true, if_false]
      rw [fail_disguise]
    · simp only [Bool.false_eq_true, if_false]
      rw [sent_fail, hgreeting]

theorem connectFailure?_disguise (c : Client) (password : Text) (sent : List Bytes) :
    (c.disguise password sent).connectFailure? = c.connectFailure? := rfl

theorem dialed_disguise (c : Client) (password : Text) (sent : List Bytes) :
    (c.disguise password sent).dialed = c.dialed.disguise password sent := rfl

theorem rebuffed_disguise (c : Client) (password : Text) (sent : List Bytes) :
    (c.disguise password sent).rebuffed = c.rebuffed.disguise password sent := rfl

theorem stranded_disguise (c : Client) (password : Text) (sent : List Bytes) :
    (c.disguise password sent).stranded = c.stranded.disguise password sent := by
  have hfailure : (c.disguise password sent).network.sockets.attemptFailure
      (c.disguise password sent).attempt = c.network.sockets.attemptFailure c.attempt := rfl
  rw [stranded, stranded, hfailure]
  split <;> rfl

/-- **Connecting takes no notice of the password**, but for the login line. -/
theorem mirrored_connect (hc : Unbroken c.account.password) (hp : Unbroken password)
    (sent : List Bytes) :
    Mirrored password (loginLine c.account) (loginLine { c.account with password := password }) c
      sent c.connect (c.disguise password sent).connect := by
  by_cases hphase : c.phase = .disconnected
  · have hphase' : (c.disguise password sent).phase = .disconnected := hphase
    have hfailure' := connectFailure?_disguise c password sent
    cases hfailure : c.connectFailure? with
    | some failure =>
      rw [connect_of_fails hphase hfailure, connect_of_fails hphase' (hfailure'.trans hfailure),
        stranded_disguise]
      exact ⟨sent, rfl, .inl ⟨(stranded_stranded c).sent, rfl⟩⟩
    | none =>
      have hdaemon : (c.disguise password sent).network.daemon = c.network.daemon := rfl
      rw [connect_of_disconnected hphase hfailure,
        connect_of_disconnected hphase' (hfailure'.trans hfailure), hdaemon, dialed_disguise,
        rebuffed_disguise, fail_disguise]
      cases c.network.daemon.refuses with
      | true => exact ⟨sent, rfl, .inl ⟨(sent_fail _ _).trans (sent_rebuffed c), rfl⟩⟩
      | false =>
        have hlogin := (mirrored_authenticate (c := c.dialed) hc hp sent).map
          (fun x => (Except.ok (ε := Failure) x.1, x.2)) (fun _ => rfl) (fun _ _ _ => rfl)
        rw [Mirrored, sent_dialed] at hlogin
        exact hlogin
  · rw [connect_of_not_disconnected hphase,
      connect_of_not_disconnected (c := c.disguise password sent) hphase]
    exact ⟨sent, rfl, .inl ⟨rfl, rfl⟩⟩

/-! ## Steps -/

variable {account : Account} {p q : Text}

/-- A client of the account with the password `p`, and the record of one with the password `q`
that has done the same: neither has sent a line, or each has sent its login line and then both have
sent the same lines. -/
structure Paired (account : Account) (p q : Text) (c : Client) (sent : List Bytes) : Prop where
  recorded : ∃ t, Recorded { account with password := p } c t
  lines : c.sent = [] ∧ sent = [] ∨
    ∃ later, c.sent = wire (loginLine { account with password := p }) :: later ∧
      sent = wire (loginLine { account with password := q }) :: later

theorem Paired.account_eq (h : Paired account p q c sent) :
    c.account = { account with password := p } := by
  obtain ⟨t, ht⟩ := h.recorded
  exact ht.account_eq

theorem Paired.sent_of_disconnected (h : Paired account p q c sent)
    (hphase : c.phase = .disconnected) : c.sent = [] ∧ sent = [] := by
  obtain ⟨t, ht⟩ := h.recorded
  have hnone : c.sent = [] := (ht.untouched hphase).1
  rcases h.lines with hlines | ⟨later, hlines, -⟩
  · exact hlines
  · rw [hnone] at hlines
    cases hlines

theorem Paired.sent_of_ready (h : Paired account p q c sent) (hready : c.ready = true) :
    ∃ later, c.sent = wire (loginLine { account with password := p }) :: later ∧
      sent = wire (loginLine { account with password := q }) :: later := by
  obtain ⟨t, ht⟩ := h.recorded
  have hall := ht.all_sent ((ready_iff c).1 hready)
  rcases h.lines with ⟨hnone, -⟩ | hlines
  · rw [hnone] at hall
    cases hall
  · exact hlines

/-- **A step takes no notice of the password**, and keeps the records paired. -/
theorem act_disguise (hp : Unbroken p) (hq : Unbroken q) (h : Paired account p q c sent)
    (step : Step) :
    ∃ sent', (c.disguise q sent).act step = (c.act step).disguise q sent' ∧
      Paired account p q (c.act step) sent' := by
  obtain ⟨t, ht⟩ := h.recorded
  have hrecorded : ∃ t, Recorded { account with password := p } (c.act step) t :=
    ⟨_, recorded_act ht step⟩
  cases step with
  | connect =>
    by_cases hphase : c.phase = .disconnected
    · have hpassword : Unbroken c.account.password := by
        rw [h.account_eq]
        exact hp
      obtain ⟨sent', hmirror, hgrow⟩ := mirrored_connect hpassword hq sent
      -- nothing was sent before, so the login line comes first in both records
      obtain ⟨hnone, rfl⟩ := h.sent_of_disconnected hphase
      refine ⟨sent', congrArg Prod.snd hmirror, hrecorded, ?_⟩
      rw [hnone, h.account_eq] at hgrow
      rcases hgrow with hgrow | ⟨hgrow, hgrow'⟩
      · exact .inl hgrow
      · exact .inr ⟨[], hgrow, hgrow'⟩
    · have hsame : (c.act .connect) = c := congrArg Prod.snd (connect_of_not_disconnected hphase)
      have hsame' : (c.disguise q sent).act .connect = c.disguise q sent :=
        congrArg Prod.snd (connect_of_not_disconnected (c := c.disguise q sent) hphase)
      rw [hsame, hsame']
      exact ⟨sent, rfl, h⟩
  | execute line =>
    obtain ⟨sent', hmirror, hgrow⟩ := mirrored_execute q line c sent
    refine ⟨sent', congrArg Prod.snd hmirror, hrecorded, ?_⟩
    rcases hgrow with ⟨hgrow, rfl⟩ | ⟨hgrow, rfl⟩
    · rw [act, hgrow]
      exact h.lines
    · cases hready : c.ready with
      | true =>
        obtain ⟨later, hlines, rfl⟩ := h.sent_of_ready hready
        exact .inr ⟨later ++ [wire line], by rw [act, hgrow, hlines]; rfl, rfl⟩
      | false =>
        -- a session that is not ready sends no line
        rw [execute_of_not_ready hready] at hgrow
        have hlength := congrArg List.length hgrow
        simp [Client.sent] at hlength
  | close =>
    refine ⟨sent, close_disguise c q sent, hrecorded, ?_⟩
    rw [act, sent_close]
    exact h.lines

theorem acts_disguise (hp : Unbroken p) (hq : Unbroken q) (h : Paired account p q c sent)
    (steps : List Step) :
    ∃ sent', (c.disguise q sent).acts steps = (c.acts steps).disguise q sent' ∧
      Paired account p q (c.acts steps) sent' := by
  -- by induction on the steps, the record of the second session changing with the first client
  induction steps generalizing c sent with
  | nil => exact ⟨sent, rfl, h⟩
  | cons step steps ih =>
    obtain ⟨sent', hact, hnext⟩ := act_disguise hp hq h step
    rw [acts_cons, acts_cons, hact]
    exact ih hnext

/-! ## Answers -/

theorem execute_fst_disguise (line : Text) (c : Client) (q : Text) (sent : List Bytes) :
    ((c.disguise q sent).execute line).1 = (c.execute line).1 := by
  obtain ⟨sent', hmirror, -⟩ := mirrored_execute q line c sent
  rw [hmirror]

theorem query_fst_disguise (line : Text) (c : Client) (q : Text) (sent : List Bytes) :
    ((c.disguise q sent).query line).1 = (c.query line).1 := by
  have hframe := execute_fst_disguise line c q sent
  cases hready : c.ready with
  | true => simp [query, hready, hframe]
  | false => simp [query, hready]

theorem exists_indexSummary_disguise (c : Client) (q : Text) (sent : List Bytes) :
    ∃ sent', (c.disguise q sent).indexSummary =
      (c.indexSummary.1, c.indexSummary.2.disguise q sent') := by
  obtain ⟨sent₁, hcoverage, -⟩ := mirrored_execute q summaryLine c sent
  obtain ⟨sent₂, hcounts, -⟩ :=
    mirrored_execute q statisticsLine (c.execute summaryLine).2 sent₁
  refine ⟨sent₂, ?_⟩
  rw [indexSummary, hcoverage]
  dsimp only
  rw [hcounts]
  rfl

theorem fetchText_fst_disguise (first : Int) (last : Option Int) (c : Client) (q : Text)
    (sent : List Bytes) :
    ((c.disguise q sent).fetchText first last).1 = (c.fetchText first last).1 := by
  have hframe := execute_fst_disguise (getLine first last) c q sent
  simp only [fetchText, hframe]
  split <;> rfl

theorem search_fst_disguise (markup : Markup) (request : Request) (c : Client) (q : Text)
    (sent : List Bytes) :
    ((c.disguise q sent).search markup request).1 = (c.search markup request).1 := by
  cases hready : c.ready with
  | false => simp [search, hready]
  | true =>
    simp only [search, ready_disguise, hready, if_true, searchTerms]
    cases request.searchLine (Terms.ofQuery request.query) with
    | ok line =>
      have hframe := execute_fst_disguise line c q sent
      simp only [hframe]
    | error failure =>
      obtain ⟨sent', hsummary⟩ := exists_indexSummary_disguise c q sent
      cases failure with
      | noSearchTerms query =>
        simp only [hsummary]
        rfl
      | _ => rfl

/-- **No answer takes notice of the password.** -/
theorem answer_disguise (hp : Unbroken c.account.password) (hq : Unbroken q) (sent : List Bytes)
    (operation : Operation) :
    ((c.disguise q sent).perform operation).1 = (c.perform operation).1 := by
  cases operation with
  | connect =>
    obtain ⟨sent', hmirror, -⟩ := mirrored_connect hp hq sent
    rw [perform, perform, hmirror]
  | execute line => exact congrArg Answer.frame (execute_fst_disguise line c q sent)
  | query line => exact congrArg Answer.text (query_fst_disguise line c q sent)
  | close => rfl
  | search markup request =>
    exact congrArg Answer.page (search_fst_disguise markup request c q sent)
  | indexSummary =>
    obtain ⟨sent', hsummary⟩ := exists_indexSummary_disguise c q sent
    exact congrArg (fun x => Answer.summary x.1) hsummary
  | getText first last =>
    exact congrArg Answer.document (fetchText_fst_disguise first last c q sent)

/-! ## Runs -/

/-- What the operations of a run give back. -/
def answers : List Operation → Client → List Answer
  | [], _ => []
  | operation :: run, c => (c.perform operation).1 :: answers run (c.perform operation).2

theorem steps_disguise (c : Client) (q : Text) (sent : List Bytes) (operation : Operation) :
    operation.steps (c.disguise q sent) = operation.steps c := by
  cases operation <;> rfl

theorem perform_disguise (hp : Unbroken p) (hq : Unbroken q) (h : Paired account p q c sent)
    (operation : Operation) :
    ∃ sent', (c.disguise q sent).perform operation =
        ((c.perform operation).1, (c.perform operation).2.disguise q sent') ∧
      Paired account p q (c.perform operation).2 sent' := by
  have hpassword : Unbroken c.account.password := by
    rw [h.account_eq]
    exact hp
  obtain ⟨sent', hacts, hpaired⟩ := acts_disguise hp hq h (operation.steps c)
  refine ⟨sent', Prod.ext (answer_disguise hpassword hq sent operation) ?_, ?_⟩
  · rw [perform_snd, steps_disguise, hacts, ← perform_snd]
  · rw [perform_snd]
    exact hpaired

theorem after_disguise (hp : Unbroken p) (hq : Unbroken q) (h : Paired account p q c sent)
    (run : List Operation) :
    answers run (c.disguise q sent) = answers run c ∧
      ∃ sent', (c.disguise q sent).after run = (c.after run).disguise q sent' ∧
        Paired account p q (c.after run) sent' := by
  induction run generalizing c sent with
  | nil => exact ⟨rfl, sent, rfl, h⟩
  | cons operation run ih =>
    obtain ⟨sent', hperform, hpaired⟩ := perform_disguise hp hq h operation
    obtain ⟨hanswers, hafter⟩ := ih hpaired
    rw [after_cons, after_cons, answers, answers, hperform]
    exact ⟨congrArg _ hanswers, hafter⟩

theorem paired_fresh (account : Account) (daemon : Daemon) (now : Binary64) (sockets : Sockets)
    (p q : Text) : Paired account p q (fresh { account with password := p } daemon now sockets) [] :=
  ⟨⟨{}, recorded_fresh _ daemon now sockets⟩, .inl ⟨rfl, rfl⟩⟩

/-! ## Passwords with a line break -/

/-- No login line is made of a password with a line break. -/
theorem connect_of_broken_password (h : ¬ Unbroken c.account.password)
    (hphase : c.phase = .disconnected) (hfits : c.connectFailure? = none) :
    c.connect.1 = .ok false ∧ c.connect.2.phase = .closed ∧ c.connect.2.status = notConnected ∧
      c.connect.2.sent = c.sent := by
  obtain ⟨d, hconnect, hsent⟩ :=
    connect_of_not_presentable hphase hfits fun hpresentable => h hpresentable.password
  rw [hconnect, sent_fail]
  exact ⟨rfl, phase_fail d _, rfl, hsent⟩

/-- Connecting with such a password never makes the session ready, and sends nothing. -/
theorem silent_connect (h : ¬ Unbroken c.account.password) (hphase : c.phase = .disconnected) :
    c.connect.2.account = c.account ∧ c.connect.2.ready = false ∧ c.connect.2.sent = c.sent := by
  cases hfailure : c.connectFailure? with
  | some failure =>
    have hstranded := stranded_stranded c
    rw [connect_of_fails hphase hfailure]
    refine ⟨hstranded.account, ?_, hstranded.sent⟩
    rw [ready, hstranded.phase, hphase]
    rfl
  | none =>
    obtain ⟨-, hclosed, -, hsent⟩ := connect_of_broken_password h hphase hfailure
    refine ⟨(asked_connect hphase hfailure).account, ?_, hsent⟩
    rw [ready, hclosed]
    rfl

/-- With such a password a session is never ready, and nothing is ever sent. -/
theorem silent_after (account : Account) (h : ¬ Unbroken account.password) (daemon : Daemon)
    (now : Binary64) (sockets : Sockets) (run : List Operation) :
    let c := (fresh account daemon now sockets).after run
    c.account = account ∧ c.ready = false ∧ c.sent = [] := by
  -- the account is part of the invariant, as it has the password that is broken
  refine after_of_act (P := fun c => c.account = account ∧ c.ready = false ∧ c.sent = []) ?_
    ⟨rfl, rfl, rfl⟩ run
  rintro c step ⟨haccount, hready, hsent⟩
  cases step with
  | execute line =>
    rw [act, execute_of_not_ready hready]
    exact ⟨haccount, hready, hsent⟩
  | close =>
    refine ⟨(account_close c).trans haccount, ?_, (sent_close c).trans hsent⟩
    rw [ready, act, phase_close]
    rfl
  | connect =>
    by_cases hphase : c.phase = .disconnected
    · rw [← haccount] at h
      obtain ⟨hsame, hnever, hnone⟩ := silent_connect h hphase
      exact ⟨hsame.trans haccount, hnever, hnone.trans hsent⟩
    · rw [act, connect_of_not_disconnected hphase]
      exact ⟨haccount, hready, hsent⟩

/-! ## The law -/

/-- **The password influences nothing but the login line.** Two sessions whose passwords are one
line each, all else equal, give the same answers to the same operations and are then the same, with
the same phase, status, clock, attempts, timeouts and closed resources, but for the password itself
and the lines sent; and these are the same but for the login line, which comes first. With a
password that has a line break nothing is ever sent, and connecting closes the session if sockets take
the rest of the account. -/
theorem password_hidden (account : Account) (daemon : Daemon) (now : Binary64) (sockets : Sockets)
    (run : List Operation) {p q : Text} (hp : Unbroken p) (hq : Unbroken q) :
    let c := fresh { account with password := p } daemon now sockets
    let d := fresh { account with password := q } daemon now sockets
    answers run d = answers run c ∧
      (∃ sent,
        d.after run =
          { c.after run with
            account := { account with password := q }
            network := { (c.after run).network with
              log := { (c.after run).network.log with sent := sent } } } ∧
        ((c.after run).network.log.sent = [] ∧ sent = [] ∨
          ∃ later,
            (c.after run).network.log.sent =
              wire (loginLine { account with password := p }) :: later ∧
            sent = wire (loginLine { account with password := q }) :: later)) ∧
      ∀ broken, ¬ Unbroken broken →
        let e := (fresh { account with password := broken } daemon now sockets).after run
        e.network.log.sent = [] ∧
          (e.phase = .disconnected →
            e.connect.2.network.log.sent = [] ∧
              (e.connectFailure? = none →
                e.connect.1 = .ok false ∧ e.connect.2.phase = .closed ∧
                  e.connect.2.status = "@1-Not connected.".toList)) := by
  intro c d
  obtain ⟨hanswers, sent, hafter, hpaired⟩ :=
    after_disguise hp hq (paired_fresh account daemon now sockets p q) run
  refine ⟨hanswers, ⟨sent, ?_, hpaired.lines⟩, ?_⟩
  · have hd : d.after run = (c.after run).disguise q sent := hafter
    rw [hd, disguise, hpaired.account_eq]
  · intro broken hbroken e
    obtain ⟨haccount, -, hsent⟩ :=
      silent_after { account with password := broken } hbroken daemon now sockets run
    refine ⟨hsent, fun hphase => ?_⟩
    have hpassword : ¬ Unbroken e.account.password := by
      rw [haccount]
      exact hbroken
    obtain ⟨-, -, hnone⟩ := silent_connect hpassword hphase
    refine ⟨hnone.trans hsent, fun hfits => ?_⟩
    obtain ⟨hresult, hclosed, hstatus, -⟩ := connect_of_broken_password hpassword hphase hfits
    exact ⟨hresult, hclosed, hstatus⟩

/-- Two passwords, one of them empty, against a daemon that answers a request and then breaks
off, and a password of two lines. -/
theorem password_hidden_sample :
    let account : Account :=
      { host := "localhost".toList, port := 1234, username := "anna".toList, password := []
        connectTimeout := none, readTimeout := some (.ofInt 30) }
    let daemon : Daemon :=
      { turns := ["@0-Hello\n", "@0-Ok\n", "a\n@0-Ok\n"].map fun octets =>
          { octets := Latin1.encode octets.toList, pace := .steady (.ofInt 1) } }
    let c := fresh { account with password := [] } daemon .zero
    let d := fresh { account with password := "pass word".toList } daemon .zero
    let run : List Operation :=
      [.connect, .execute "@page".toList, .search .html { query := ['x'] }, .getText 7 none]
    answers run d = answers run c ∧ (d.after run).status = (c.after run).status ∧
      (c.after [.connect, .execute "@page".toList]).phase = .ready ∧
      (c.after run).sent =
        ["@login anna \n", "@page\n", "@desktop[start=0][end=10] \"x\"\n"].map
          (Latin1.encode ·.toList) ∧
      (d.after run).sent =
        ["@login anna pass word\n", "@page\n", "@desktop[start=0][end=10] \"x\"\n"].map
          (Latin1.encode ·.toList) ∧
      ((fresh { account with password := "a\nb".toList } daemon .zero).after run).sent = [] := by
  intro account daemon c d run
  have hhidden := password_hidden account daemon .zero .system run (p := [])
    (q := "pass word".toList) (by decide) (by decide)
  obtain ⟨hanswers, ⟨sent, hafter, -⟩, hbroken⟩ := hhidden
  refine ⟨hanswers, ?_, by decide +kernel, by decide +kernel, by decide +kernel,
    (hbroken "a\nb".toList (by decide)).1⟩
  have hd : d.after run = _ := hafter
  rw [hd]

end Client
end SearchClient
