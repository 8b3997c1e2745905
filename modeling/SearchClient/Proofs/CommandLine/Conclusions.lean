import SearchClient.CommandLine.Run
import SearchClient.Proofs.Console.Shown
import SearchClient.Proofs.Session.Lifecycle
import SearchClient.Proofs.Session.Transcript

/-!
# How commands end

A command that needs a session opens one, does its work over it, closes it and prints its report
after that. So whatever the daemon does, and whether or not the command fails, the connection that
it made is closed when it ends, and the exit status tells what came of the session. Only a command
that fails while it opens its session does not get so far, and closes nothing.

1. `Client.spent_of_closed` says what a session that has been opened and has ended leaves in the
   log;
2. `CommandLine.isRun_search` and its companions say that a command does no more over its
   session than a run of operations;
3. `CommandLine.conclude_ok_cases` and `CommandLine.texts_plain` say what printing comes to;
4. `CommandLine.command_ends` puts these together, and
   `CommandLine.negative_timeout_leaves_connection_open` is a command that closes nothing.
-/

namespace SearchClient

/-! ## Sessions that have ended -/

/-- The log of a session that was opened against a daemon and has ended: one attempt to connect, and
if that was accepted, the stream and the socket closed once each. -/
structure Log.Spent (daemon : Daemon) (log : Log) : Prop where
  attempted : log.attempts.length = 1
  closed : log.closed = if daemon.refuses then [] else [.stream, .socket]

namespace Client

variable {c : Client}

/-- Connecting makes one attempt, whatever comes of it. -/
theorem attempts_connect (h : c.phase = .disconnected) :
    c.connect.2.custody.attempts = c.custody.attempts ++ [c.attempt] := by
  cases hfails : c.connectFailure? with
  | some failure =>
    rw [connect_of_fails h hfails]
    exact (stranded_stranded c).attempts
  | none =>
    rw [connect_of_disconnected h hfails]
    cases c.network.daemon.refuses with
    | true =>
      simp only [if_true, custody_fail, Custody.attempts_close, custody_rebuffed]
      rfl
    | false =>
      have hdialed : c.dialed.custody.attempts = c.custody.attempts ++ [c.attempt] := by
        rw [custody_dialed]
        rfl
      simp only [Bool.false_eq_true, if_false]
      rcases custody_authenticate c.dialed with hlogin | hlogin
      · rw [hlogin]
        exact hdialed
      · rw [hlogin, Custody.attempts_close]
        exact hdialed

section Fresh

variable {account : Account} {daemon : Daemon} {now : Binary64} {sockets : Sockets}
  (hfits : (fresh account daemon now sockets).connectFailure? = none)

include hfits

/-- A session that is opened is ready afterwards, or it has ended. -/
theorem closed_of_not_ready :
    let c := (fresh account daemon now sockets).connect.2
    c.ready = false → c.phase = .closed := by
  intro c hready
  have hkept : c.custody.Kept := kept_after [.connect] (kept_fresh account daemon now sockets hfits)
  have hsettled : c.phase ≠ .authenticating := hkept.settled
  have hopened : c.phase ≠ .disconnected := (asked_connect rfl hfits).not_disconnected
  cases hphase : c.phase with
  | disconnected => exact absurd hphase hopened
  | authenticating => exact absurd hphase hsettled
  | ready => simp [ready, hphase] at hready
  | closed => rfl

/-- **A session that was opened and has ended has closed what it opened**, whatever was done with
it. -/
theorem spent_of_closed (run : List Operation) :
    let c := (fresh account daemon now sockets).connect.2.after run
    c.phase = .closed → c.network.log.Spent daemon := by
  intro c hclosed
  let c₀ := fresh account daemon now sockets
  have hopened : c₀.connect.2.phase ≠ .disconnected := (asked_connect rfl hfits).not_disconnected
  have hattempts : c.custody.attempts = [c₀.attempt] :=
    (attempts_after hopened run).trans (attempts_connect rfl)
  have hkept : c.custody.Kept :=
    kept_after (.connect :: run) (kept_fresh account daemon now sockets hfits)
  have hrefuses : c.custody.refuses = daemon.refuses := refuses_after c₀ (.connect :: run)
  refine ⟨congrArg List.length hattempts, ?_⟩
  cases hdaemon : daemon.refuses with
  | true =>
    refine hkept.closed_of_not_connected fun hconnected => ?_
    rw [Custody.Connected, hrefuses, hdaemon] at hconnected
    exact absurd hconnected.2 (by decide)
  | false =>
    have hconnected : c.custody.Connected := by
      rw [Custody.Connected, hattempts, hrefuses, hdaemon]
      exact ⟨by simp, rfl⟩
    exact (hkept.closed_of_connected hconnected).trans (if_pos hclosed)

end Fresh

end Client

namespace CommandLine

open Client

variable {c : Client} {around : Surroundings} {terminal : Terminal}

/-! ## Commands as runs -/

/-- What a command needs of its session is a run of operations. -/
def IsRun (action : Client → Shown × Client) : Prop :=
  ∀ c, ∃ run, (action c).2 = c.after run

theorem isRun_search (naming : Console.Naming) (wide : Charset.Wide) (arguments : SearchArguments) :
    IsRun (runSearch naming wide arguments) := by
  intro c
  rw [runSearch]
  cases requestOf arguments with
  | error failure => exact ⟨[], rfl⟩
  | ok request => exact ⟨[.search { Markup.console with wide } request], rfl⟩

theorem isRun_summary : IsRun runSummary := by
  intro c
  exact ⟨[.indexSummary], rfl⟩

theorem isRun_get (first : Int) (last : Option Int) : IsRun (runGet first last) := by
  intro c
  exact ⟨[.getText first last], rfl⟩

/-! ## Printing -/

@[simp] theorem log_conclude (terminal : Terminal) (shown : Shown) (prompts : List Text) (log : Log) :
    (conclude terminal shown prompts log).log = log := by
  rcases shown with failure | ⟨prints, status⟩ <;> rfl

/-- What is to be shown is shown, with its exit status, unless a print of it fails. -/
theorem conclude_ok_cases (terminal : Terminal) (prints : List Print) (status : Nat)
    (prompts : List Text) (log : Log) :
    let outcome := conclude terminal (.ok (prints, status)) prompts log
    outcome.conclusion = .exit status ∨ ∃ failure, outcome.conclusion = .failed failure := by
  intro outcome
  have houtcome : outcome = conclude terminal (.ok (prints, status)) prompts log := rfl
  rw [houtcome, conclude]
  rcases Print.texts terminal.naming prints with ⟨texts, _ | failure⟩
  · exact .inl rfl
  · exact .inr ⟨failure, rfl⟩

/-- Text that is shown as it is never fails to print. -/
theorem texts_plain (naming : Console.Naming) (lines : List Text) :
    Print.texts naming (lines.map .plain) = (lines.map Console.printable, none) := by
  induction lines with
  | nil => rfl
  | cons line lines ih =>
    rw [List.map_cons, Print.texts, ih]
    rfl

/-- The report of a denial shows its words, however styles are named. -/
theorem texts_denied (naming : Console.Naming) :
    Print.texts naming [.markup "[bold red]Permission denied[/bold red]".toList] =
      (["Permission denied".toList], none) := by
  have hname : Console.IsName "bold red".toList := by decide +kernel
  have hwords : Console.Literal "Permission denied".toList := by decide +kernel
  have hshown : Console.textAfter naming [] 0
      (Console.styled "bold red".toList "Permission denied".toList ++ []) =
        some "Permission denied".toList := by
    rw [Console.textAfter_styled_literal hname hwords, Console.textAfter_nil]
    rfl
  have hrender : (Print.markup "[bold red]Permission denied[/bold red]".toList).text naming =
      .ok "Permission denied".toList :=
    Console.render_eq_ok_iff.2 ⟨_, hshown, by decide +kernel⟩
  rw [Print.texts, hrender]
  rfl

/-! ## Commands that need a session -/

section WithSession

variable {args : Arguments} {account : Account} {daemon : Daemon} {now : Binary64}
  {sockets : Sockets} {prompts : List Text} (action : Client → Shown × Client)
  (hopen : openSession args around =
    ((fresh account daemon now sockets).connect.1, (fresh account daemon now sockets).connect.2,
      prompts))

/-- The session of a command is a fresh client's that has been connected. -/
theorem exists_openSession (args : Arguments) (around : Surroundings) :
    ∃ account prompts,
      let c := { account, network := around.network : Client }
      openSession args around = (c.connect.1, c.connect.2, prompts) := by
  simp only [openSession]
  cases (settingsFor args around.environment).password with
  | none => exact ⟨_, _, rfl⟩
  | some password => exact ⟨_, _, rfl⟩

include hopen

/-- A command that cannot open its session fails, and has not closed anything. -/
theorem withSession_of_fails {failure : Failure}
    (hfails : (fresh account daemon now sockets).connectFailure? = some failure) :
    withSession args around action =
      conclude around.terminal (.error failure) prompts
        (fresh account daemon now sockets).stranded.network.log := by
  have hphase : (fresh account daemon now sockets).phase = .disconnected := rfl
  rw [withSession, hopen, connect_of_fails hphase hfails]

/-- Such a command has made its attempt, and neither printed, sent nor closed anything. -/
theorem stranded_withSession {failure : Failure}
    (hfails : (fresh account daemon now sockets).connectFailure? = some failure) :
    let outcome := withSession args around action
    outcome.log.attempts.length = 1 ∧ outcome.conclusion = .failed failure ∧ outcome.output = [] ∧
      outcome.log.sent = [] ∧ outcome.log.closed = [] := by
  intro outcome
  have hstranded := stranded_stranded (fresh account daemon now sockets)
  have houtcome : outcome = _ := withSession_of_fails action hopen hfails
  rw [houtcome, log_conclude]
  exact ⟨congrArg List.length hstranded.attempts, rfl, rfl, hstranded.sent, hstranded.closed⟩

/-- A command over a session that is ready shows what its action gives, and closes the session. -/
theorem withSession_of_ready
    (hfits : (fresh account daemon now sockets).connectFailure? = none)
    (hready : (fresh account daemon now sockets).connect.2.ready = true) :
    withSession args around action =
      conclude around.terminal (action (fresh account daemon now sockets).connect.2).1 prompts
        (action (fresh account daemon now sockets).connect.2).2.close.network.log := by
  obtain ⟨success, hsuccess⟩ := (exists_connect_eq_ok_iff rfl).2 hfits
  rw [withSession, hopen, hsuccess]
  simp only [hready, if_true]

theorem withSession_of_not_ready
    (hfits : (fresh account daemon now sockets).connectFailure? = none)
    (hready : (fresh account daemon now sockets).connect.2.ready = false) :
    withSession args around action =
      conclude around.terminal (.ok ([loginReport (fresh account daemon now sockets).connect.2], 1))
        prompts (fresh account daemon now sockets).connect.2.network.log := by
  obtain ⟨success, hsuccess⟩ := (exists_connect_eq_ok_iff rfl).2 hfits
  rw [withSession, hopen, hsuccess]
  simp only [hready, Bool.false_eq_true, if_false]

/-- **A command closes the connection that it made**, whatever its action comes to. -/
theorem spent_withSession (hfits : (fresh account daemon now sockets).connectFailure? = none)
    (hrun : IsRun action) : (withSession args around action).log.Spent daemon := by
  cases hready : (fresh account daemon now sockets).connect.2.ready with
  | true =>
    obtain ⟨run, haction⟩ := hrun (fresh account daemon now sockets).connect.2
    rw [withSession_of_ready action hopen hfits hready, log_conclude, haction]
    -- closing the session is one more operation of the run
    have hspent := spent_of_closed hfits (run ++ [.close])
    rw [after_append] at hspent
    exact hspent (phase_close _)
  | false =>
    rw [withSession_of_not_ready action hopen hfits hready, log_conclude]
    exact spent_of_closed hfits [] (closed_of_not_ready hfits hready)

/-- Without a session a command sends no more than the login line, and exits with 1. -/
theorem turnedAway_withSession
    (hfits : (fresh account daemon now sockets).connectFailure? = none)
    (hready : (fresh account daemon now sockets).connect.2.ready = false) :
    let outcome := withSession args around action
    (outcome.log.sent = [] ∨ outcome.log.sent = [wire (loginLine account)]) ∧
      (outcome.conclusion = .exit 1 ∨ ∃ failure, outcome.conclusion = .failed failure) := by
  intro outcome
  have houtcome : outcome = _ := withSession_of_not_ready action hopen hfits hready
  rw [houtcome, log_conclude]
  refine ⟨?_, conclude_ok_cases _ _ 1 prompts _⟩
  rcases (asked_connect (c := fresh account daemon now sockets) rfl hfits).sent with
    hsent | ⟨-, hsent⟩
  · exact .inl hsent
  · exact .inr hsent

end WithSession

/-! ## Actions -/

theorem runSummary_ends (terminal : Terminal) (c : Client) (prompts : List Text) (log : Log) :
    let outcome := conclude terminal (runSummary c).1 prompts log
    outcome.conclusion = .exit 0 ∨ ∃ failure, outcome.conclusion = .failed failure :=
  conclude_ok_cases terminal _ 0 prompts log

theorem runSearch_ends (terminal : Terminal) (wide : Charset.Wide) (arguments : SearchArguments)
    (c : Client) (prompts : List Text) (log : Log) :
    let outcome := conclude terminal (runSearch terminal.naming wide arguments c).1 prompts log
    outcome.conclusion = .exit 0 ∨ ∃ failure, outcome.conclusion = .failed failure := by
  rw [runSearch]
  cases requestOf arguments with
  | error failure => exact .inr ⟨failure, rfl⟩
  | ok request =>
    dsimp only
    rcases c.search { Markup.console with wide } request with ⟨failure | page, d⟩
    · exact .inr ⟨failure, rfl⟩
    · cases hsummary : page.summary with
      | some summary =>
        simp only [Except.bind, hsummary]
        exact conclude_ok_cases terminal _ 0 prompts log
      | none =>
        simp only [Except.bind, hsummary]
        cases pageReport terminal.naming page with
        | error failure => exact .inr ⟨failure, rfl⟩
        | ok prints => exact conclude_ok_cases terminal prints 0 prompts log

/-- Document text is printed line by line, unless the daemon keeps it back. -/
theorem runGet_ends {first : Int} {last : Option Int}
    (hwritable : [first, lastOffset first last].all Numeral.isWritable = true)
    (terminal : Terminal) (c : Client) (prompts : List Text) (log : Log) :
    let frame := (c.execute (getLine first last)).1
    let outcome := conclude terminal (runGet first last c).1 prompts log
    if ['@', '1'].isPrefixOf frame.status then
      outcome.conclusion = .exit 1 ∧ outcome.output = terminal.layout "Permission denied".toList
    else
      outcome.conclusion = .exit 0 ∧
        outcome.output = frame.body.flatMap fun line => terminal.layout (Console.printable line) := by
  intro frame outcome
  -- the status decides between the report of a denial and the lines as they are
  have hshown : (runGet first last c).1 =
      .ok (if ['@', '1'].isPrefixOf frame.status then
          ([.markup "[bold red]Permission denied[/bold red]".toList], 1)
        else (frame.body.map .plain, 0)) := by
    rw [runGet, fetchText, if_pos hwritable]
    cases hdenied : ['@', '1'].isPrefixOf frame.status with
    | true => simp only [Document.ofReply, Document.denied, Except.map, hdenied, frame, if_true]
    | false =>
      simp only [Document.ofReply, Document.denied, Except.map, hdenied, frame, Bool.false_eq_true,
        if_false]
      rfl
  have houtcome : outcome = conclude terminal (runGet first last c).1 prompts log := rfl
  rw [houtcome, hshown]
  split
  · rw [conclude, texts_denied]
    exact ⟨rfl, List.flatMap_singleton _ _⟩
  · rw [conclude, texts_plain]
    exact ⟨rfl, List.flatMap_map _ _ _⟩

/-! ## The law -/

/-- **How a command ends.** Against every daemon, a command that needs a session makes one attempt
to connect. If that fails outright, the command fails too, without having sent or printed anything,
and closes nothing. Otherwise what it opened is closed when it ends, also by a failure, the stream and
then the socket, once each. If there was no session, it sent no more than the login line; if it does
not fail, it exits with 1. Over a session, a search and a summary exit with 0 if they do not fail.
Document text does not fail to be shown, unless its offsets are too long to be written: the command
exits with 1 if the status of the reply is that of a denial, and then says no more than that, and
otherwise exits with 0 and has printed every line of the reply, as the terminal lays it out. -/
theorem command_ends (args : Arguments) (environment : Environment)
    (systemUser typedPassword : Text) (daemon : Daemon) (now : Binary64) (sockets : Sockets)
    (terminal : Terminal) (wide : Charset.Wide) (command : Command) (hcommand : command ≠ .types) :
    let around : Surroundings :=
      { environment, systemUser, typedPassword, terminal, wide
        network := { daemon, stream := { now }, sockets } }
    let opened := openSession args around
    let session := opened.2.1
    let outcome := runCommand args around command
    let failed := ∃ failure, outcome.conclusion = .failed failure
    outcome.log.attempts.length = 1 ∧
    (∀ failure, opened.1 = .error failure →
      outcome.conclusion = .failed failure ∧ outcome.output = [] ∧ outcome.log.sent = [] ∧
        outcome.log.closed = []) ∧
    ∀ success, opened.1 = .ok success →
      outcome.log.closed = (if daemon.refuses then [] else [.stream, .socket]) ∧
      (session.ready = false →
        (outcome.log.sent = [] ∨ outcome.log.sent = [wire (loginLine session.account)]) ∧
          (outcome.conclusion = .exit 1 ∨ failed)) ∧
      (session.ready = true →
        ((∃ arguments, command = .search arguments) ∨ command = .summary →
          outcome.conclusion = .exit 0 ∨ failed) ∧
        ∀ first last, command = .get first last →
          let frame := (session.execute (getLine first last)).1
          if [first, lastOffset first last].all Numeral.isWritable then
            if ['@', '1'].isPrefixOf frame.status then
              outcome.conclusion = .exit 1 ∧ outcome.output = terminal.layout "Permission denied".toList
            else
              outcome.conclusion = .exit 0 ∧
                outcome.output = frame.body.flatMap fun line => terminal.layout (Console.printable line)
          else outcome.conclusion = .failed .numeralTooLong) := by
  intro around opened session outcome failed
  obtain ⟨account, prompts, hopen⟩ := exists_openSession args around
  let c₀ := fresh account daemon now sockets
  have hresult : opened.1 = c₀.connect.1 := congrArg Prod.fst hopen
  have hsession : session = c₀.connect.2 := congrArg (fun opened => opened.2.1) hopen
  -- each command runs its own action over the session
  obtain ⟨action, haction, hrun⟩ :
      ∃ action, outcome = withSession args around action ∧ IsRun action := by
    cases command with
    | search arguments => exact ⟨_, rfl, isRun_search terminal.naming wide arguments⟩
    | summary => exact ⟨_, rfl, isRun_summary⟩
    | get first last => exact ⟨_, rfl, isRun_get first last⟩
    | types => exact absurd rfl hcommand
  cases hfails : c₀.connectFailure? with
  | some failure =>
    have herror := (connect_eq_error_iff (c := c₀) rfl).2 hfails
    obtain ⟨hattempted, hfailed⟩ := stranded_withSession action hopen hfails
    rw [haction, hresult, herror]
    refine ⟨hattempted, ?_, nofun⟩
    rintro _ ⟨⟩
    exact hfailed
  | none =>
    obtain ⟨success, hsuccess⟩ := (exists_connect_eq_ok_iff (c := c₀) rfl).2 hfails
    have hspent := spent_withSession action hopen hfails hrun
    rw [← haction] at hspent
    refine ⟨hspent.attempted, ?_, fun _ _ => ⟨hspent.closed, ?_, ?_⟩⟩
    · rw [hresult, hsuccess]
      nofun
    · intro hready
      rw [hsession] at hready
      have haccount : session.account = account := by
        rw [hsession]
        exact (asked_connect rfl hfails).account
      have hends := turnedAway_withSession action hopen hfails hready
      rw [← haction] at hends
      rw [haccount]
      exact hends
    · intro hready
      rw [hsession] at hready ⊢
      have hconclude : ∀ action', withSession args around action' = _ :=
        fun action' => withSession_of_ready action' hopen hfails hready
      refine ⟨?_, ?_⟩
      · rintro (⟨arguments, rfl⟩ | rfl)
        · show (withSession args around (runSearch terminal.naming wide arguments)).conclusion = _ ∨
            ∃ failure, (withSession args around (runSearch terminal.naming wide arguments)).conclusion = _
          rw [hconclude]
          exact runSearch_ends terminal wide arguments _ prompts _
        · show (withSession args around runSummary).conclusion = _ ∨ ∃ failure,
            (withSession args around runSummary).conclusion = _
          rw [hconclude]
          exact runSummary_ends terminal _ prompts _
      · rintro first last rfl frame
        have hget : outcome = _ := hconclude (runGet first last)
        rw [hget]
        split
        · rename_i hwritable
          exact runGet_ends hwritable terminal _ prompts _
        · rename_i hlong
          rw [runGet, fetchText, if_neg hlong]
          rfl

/-- Two lines of a document, the second one of console markup, over a connection that fails to be
closed. -/
theorem command_ends_sample :
    let environment : Environment := [("INDEX_CLIENT_PASSWORD".toList, "secret".toList)]
    let daemon : Daemon :=
      { turns := ["@0-Hello\n", "@0-Ok\n", "one\n[/two]\n@0-Ok\n"].map fun octets =>
          { octets := Latin1.encode octets.toList }
        closeFails := true }
    let around : Surroundings :=
      { environment, systemUser := "anna".toList, typedPassword := []
        network := { daemon, stream := { now := .zero }, sockets := .system } }
    let outcome := runCommand {} around (.get 7 none)
    outcome.conclusion = .exit 0 ∧ outcome.output = "one\n[/two]\n".toList ∧
      outcome.log.closed = [.stream, .socket] ∧
      outcome.log.sent = ["@login anna secret\n", "@get 7 7\n"].map (Latin1.encode ·.toList) := by
  intro environment daemon around outcome
  have hends := command_ends {} environment "anna".toList [] daemon .zero .system {}
    (fun _ => none) (.get 7 none) (by decide)
  obtain ⟨-, -, hopened⟩ := hends
  have hsuccess : (openSession {} around).1 = .ok true := by decide +kernel
  obtain ⟨hclosed, -, hready⟩ := hopened true hsuccess
  have hget := (hready (by decide +kernel)).2 7 none rfl
  have hframe : ((openSession {} around).2.1.execute (getLine 7 none)).1 =
      { body := ["one".toList, "[/two]".toList], status := "@0-Ok".toList } := by
    decide +kernel
  rw [hframe] at hget
  obtain ⟨hexit, houtput⟩ := hget
  refine ⟨hexit, houtput.trans ?_, hclosed, ?_⟩
  · decide +kernel
  · decide +kernel

/-- A negative time to wait in the environment: the daemon accepts the connection, the command fails
and the connection is not closed. -/
theorem negative_timeout_leaves_connection_open :
    let environment : Environment :=
      [("INDEX_CLIENT_PASSWORD".toList, "secret".toList),
        ("INDEX_CLIENT_READ_TIMEOUT".toList, "-1".toList)]
    let daemon : Daemon := { turns := [{ octets := Latin1.encode "@0-Hello\n".toList }] }
    let around : Surroundings :=
      { environment, systemUser := "anna".toList, typedPassword := []
        network := { daemon, sockets := .system } }
    let outcome := runCommand {} around (.get 7 none)
    daemon.refuses = false ∧ outcome.conclusion = .failed .timeoutNegative ∧
      outcome.log.attempts.length = 1 ∧ outcome.log.closed = [] := by
  decide +kernel

end CommandLine
end SearchClient
