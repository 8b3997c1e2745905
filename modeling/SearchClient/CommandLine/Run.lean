import SearchClient.CommandLine.Arguments
import SearchClient.CommandLine.Report
import SearchClient.Console.Columns
import SearchClient.Settings

/-!
# Running the command line

One run of the program: it reads its arguments, opens a session if a command needs one, does what
the command says, closes the session and prints the report. A run is a function of everything it
meets outside: arguments, environment, user, typed password, network, terminal and character sets.
-/

namespace SearchClient
namespace CommandLine

/-- The console that a run prints to. -/
structure Terminal where
  /-- How it lays out a text that is printed on lines of its own. -/
  layout : Text → Text := Console.unfolded
  /-- How it names styles. -/
  naming : Console.Naming := .plain

/-- What a run meets outside itself. -/
structure Surroundings where
  environment : Environment
  systemUser : Text
  typedPassword : Text
  network : Network
  terminal : Terminal := {}
  /-- The wide character sets that are at hand. -/
  wide : Charset.Wide := fun _ => none

inductive Conclusion where
  /-- With an exit status. -/
  | exit (status : Nat)
  /-- With an exit status and a complaint, before any command is run. -/
  | refused (status : Nat) (complaint : Text)
  /-- By a failure. -/
  | failed (failure : Failure)
  deriving DecidableEq

/-- What a run leaves behind: how it ended, what it printed, which passwords it asked for, and
what it did on the network. -/
structure Outcome where
  conclusion : Conclusion
  output : Text := []
  prompts : List Text := []
  log : Log := {}
  deriving DecidableEq

/-- The first of these texts that is not empty. -/
def firstGiven (texts : List (Option Text)) (default : Text) : Text :=
  ((texts.filterMap id).find? fun s => !s.isEmpty).getD default

/-! ## Opening a session -/

/-- The settings of the environment under the options given. -/
def settingsFor (args : Arguments) (environment : Environment) : Settings :=
  let s := Settings.ofEnvironment environment
  { s with
    host := (args.host.filter fun host => !host.isEmpty).getD s.host
    port := (args.port.filter fun port => port != 0).getD s.port }

/-- The client of a run, what became of connecting it, and the prompts for a password. -/
def openSession (args : Arguments) (around : Surroundings) :
    Except Failure Bool × Client × List Text :=
  let settings := settingsFor args around.environment
  let username := firstGiven [args.username, settings.username] around.systemUser
  let (password, prompts) :=
    match settings.password with
    -- an empty password is a password
    | some password => (password, [])
    | none => (around.typedPassword, ["Password for ".toList ++ username ++ ": ".toList])
  let (connected, client) :=
    Client.start (settings.account (some username) (some password)) around.network
  (connected, client, prompts)

/-! ## Commands -/

/-- What a command has to show: prints, or a failure, and the exit status. -/
abbrev Shown := Except Failure (List Print × Nat)

def requestOf (args : SearchArguments) : Except Failure Request :=
  let offset := fun (value : Option Int) => (value.map Offset.whole).getD .absent
  Request.create ([' '].intercalate args.words) (offset args.start) (offset args.stop)
    args.filename (args.fileTypes.map some)

def runSearch (naming : Console.Naming) (wide : Charset.Wide) (args : SearchArguments) (c : Client) :
    Shown × Client :=
  match requestOf args with
  | .error failure => (.error failure, c)
  | .ok request =>
    let (page, c) := c.search { Markup.console with wide := wide } request
    (page.bind fun page =>
      match page.summary with
      | some summary => .ok (summaryReport summary c.account.username, 0)
      | none => (pageReport naming page).map fun prints => (prints, 0), c)

def runSummary (c : Client) : Shown × Client :=
  let (summary, c) := c.indexSummary
  (.ok (summaryReport summary c.account.username, 0), c)

def runGet (first : Int) (last : Option Int) (c : Client) : Shown × Client :=
  let (document, c) := c.fetchText first last
  (document.map fun document =>
    if document.denied then ([.markup "[bold red]Permission denied[/bold red]".toList], 1)
    else (documentReport document, 0), c)

/-- The outcome of printing what there is to show. -/
def conclude (terminal : Terminal) (shown : Shown) (prompts : List Text) (log : Log) : Outcome :=
  match shown with
  | .error failure => { conclusion := .failed failure, prompts, log }
  | .ok (prints, status) =>
    let (texts, failure) := Print.texts terminal.naming prints
    { conclusion := (failure.map Conclusion.failed).getD (.exit status)
      output := texts.flatMap terminal.layout
      prompts, log }

/-- Runs what needs a session on one, and closes it. -/
def withSession (args : Arguments) (around : Surroundings)
    (action : Client → Shown × Client) : Outcome :=
  let (connected, client, prompts) := openSession args around
  let conclude := fun shown (log : Log) => conclude around.terminal shown prompts log
  match connected with
  -- there is no session yet that could be closed
  | .error failure => conclude (.error failure) client.network.log
  | .ok _ =>
    if client.ready then
      let (shown, after) := action client
      conclude shown after.close.network.log
    else conclude (.ok ([loginReport client], 1)) client.network.log

def runCommand (args : Arguments) (around : Surroundings) : Command → Outcome
  | .search arguments => withSession args around (runSearch around.terminal.naming around.wide arguments)
  | .summary => withSession args around runSummary
  | .get first last => withSession args around (runGet first last)
  | .types => conclude around.terminal (.ok (kindsReport, 0)) [] around.network.log

/-! ## The program -/

/-- The name and version of the program. -/
def versionLine : Text := "index-client 0.1.0\n".toList

def run (args : List Text) (around : Surroundings) : Outcome :=
  match Arguments.parse args with
  | .error (.help topic) =>
    { conclusion := .refused 0 [], output := topic.help, log := around.network.log }
  | .error (.misuse topic misuse) =>
    { conclusion := .refused 2 (misuseReport topic misuse), log := around.network.log }
  | .ok values =>
    if values.version then
      { conclusion := .exit 0, output := versionLine, log := around.network.log }
    else
      match values.command with
      | some command => runCommand values around command
      | none =>
        { conclusion := .exit 0, output := Topic.program.help, log := around.network.log }

end CommandLine
end SearchClient
