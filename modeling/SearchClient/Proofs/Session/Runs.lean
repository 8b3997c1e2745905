import SearchClient.Proofs.Session.Effects
import SearchClient.Search

/-!
# Runs of a session

What a caller can do with a session, in any order and any number: `Operation`. Each operation
comes down to the three steps in which a session meets the network, and which steps these are
depends on the session only through its being ready. So a law of sessions is shown for a step,
and `Client.after_of_act` carries it over to runs.

1. `Client.perform` is one operation and its answer, `Client.after` a run of them;
2. `Operation.steps` are the steps of an operation, and `Client.perform_snd` says that it does
   no more than these;
3. `Client.after_eq_acts` says the same of a run.
-/

namespace SearchClient

/-- What a caller does with a session. -/
inductive Operation where
  | connect
  | execute (line : Text)
  | query (line : Text)
  | close
  | search (markup : Markup) (request : Request)
  | indexSummary
  | getText (first : Int) (last : Option Int)

/-- What an operation gives back; one that fails gives its failure. -/
inductive Answer where
  | connected (ready : Except Failure Bool)
  | frame (frame : Frame)
  | text (text : Text)
  | closed
  | page (page : Except Failure ResultPage)
  | summary (summary : Summary)
  | document (document : Except Failure Document)

/-- The steps in which a session meets the network. -/
inductive Step where
  | connect
  | execute (line : Text)
  | close

/-- The steps of a search over a session that is ready. -/
def Request.steps (request : Request) : List Step :=
  match request.ownLine with
  | .ok line => [.execute line]
  | .error (.noSearchTerms _) => [.execute summaryLine, .execute statisticsLine]
  | .error _ => []

/-- The steps of an operation on a client. -/
def Operation.steps (c : Client) : Operation → List Step
  | .connect => [.connect]
  | .execute line => [.execute line]
  | .query line => [.execute line]
  | .close => [.close]
  | .search _ request => if c.ready then request.steps else []
  | .indexSummary => [.execute summaryLine, .execute statisticsLine]
  | .getText first last =>
    if [first, lastOffset first last].all Numeral.isWritable then [.execute (getLine first last)]
    else []

namespace Client

/-- A client for an account whose daemon is going to behave in a given way, when the clock shows
`now` and nothing has been done yet. -/
def fresh (account : Account) (daemon : Daemon) (now : Binary64) (sockets : Sockets := .system) :
    Client :=
  { account, network := { daemon, stream := { now }, sockets } }

/-! ## Operations -/

/-- One operation: what it gives back and the client after it. -/
def perform (c : Client) : Operation → Answer × Client
  | .connect => (.connected c.connect.1, c.connect.2)
  | .execute line => (.frame (c.execute line).1, (c.execute line).2)
  | .query line => (.text (c.query line).1, (c.query line).2)
  | .close => (.closed, c.close)
  | .search markup request => (.page (c.search markup request).1, (c.search markup request).2)
  | .indexSummary => (.summary c.indexSummary.1, c.indexSummary.2)
  | .getText first last => (.document (c.fetchText first last).1, (c.fetchText first last).2)

/-- The client after a run of operations. -/
def after (c : Client) (run : List Operation) : Client :=
  run.foldl (fun c operation => (c.perform operation).2) c

@[simp] theorem after_nil (c : Client) : c.after [] = c := rfl

@[simp] theorem after_cons (c : Client) (operation : Operation) (run : List Operation) :
    c.after (operation :: run) = (c.perform operation).2.after run := rfl

theorem after_append (c : Client) (run run' : List Operation) :
    c.after (run ++ run') = (c.after run).after run' :=
  List.foldl_append

/-! ## Steps -/

/-- The client after one step. -/
def act (c : Client) : Step → Client
  | .connect => c.connect.2
  | .execute line => (c.execute line).2
  | .close => c.close

/-- The client after steps in order. -/
def acts (c : Client) (steps : List Step) : Client := steps.foldl act c

@[simp] theorem acts_nil (c : Client) : c.acts [] = c := rfl

@[simp] theorem acts_cons (c : Client) (step : Step) (steps : List Step) :
    c.acts (step :: steps) = (c.act step).acts steps := rfl

theorem acts_append (c : Client) (steps steps' : List Step) :
    c.acts (steps ++ steps') = (c.acts steps).acts steps' :=
  List.foldl_append

theorem indexSummary_snd (c : Client) :
    c.indexSummary.2 = c.acts [.execute summaryLine, .execute statisticsLine] := rfl

theorem search_snd (markup : Markup) (request : Request) (c : Client) :
    (c.search markup request).2 = c.acts (if c.ready then request.steps else []) := by
  cases hready : c.ready with
  | false => simp [search, hready]
  | true =>
    simp only [search, hready, if_true, searchTerms, Request.steps, Request.ownLine]
    cases hline : request.searchLine (Terms.ofQuery request.query) with
    | ok line => rfl
    | error failure => cases failure <;> rfl

/-- **An operation does what its steps do, and nothing else.** -/
theorem perform_snd (c : Client) (operation : Operation) :
    (c.perform operation).2 = c.acts (operation.steps c) := by
  cases operation with
  | connect => rfl
  | execute line => rfl
  | query line => exact query_snd line c
  | close => rfl
  | search markup request => exact search_snd markup request c
  | indexSummary => rfl
  | getText first last =>
    simp only [perform, fetchText, Operation.steps]
    split <;> rfl

/-! ## Runs -/

/-- The steps of a run. -/
def stepsOf : List Operation → Client → List Step
  | [], _ => []
  | operation :: run, c => operation.steps c ++ stepsOf run (c.perform operation).2

theorem after_eq_acts (run : List Operation) (c : Client) : c.after run = c.acts (stepsOf run c) := by
  induction run generalizing c with
  | nil => rfl
  | cons operation run ih =>
    rw [after_cons, ih, stepsOf, acts_append, ← perform_snd]

/-- What every step keeps holds after every run. -/
theorem after_of_act {P : Client → Prop} (hact : ∀ c step, P c → P (c.act step)) {c : Client}
    (h : P c) (run : List Operation) : P (c.after run) := by
  rw [after_eq_acts]
  generalize stepsOf run c = steps
  induction steps generalizing c with
  | nil => exact h
  | cons step steps ih => exact ih (hact c step h)

end Client
end SearchClient
