import SearchClient.CommandLine.Grammar
import SearchClient.Number.Numeral

/-!
# Arguments

The command line proper: which options the program and its commands take, and the values they
are read into. `Arguments.parse` reads a whole command line.
-/

namespace SearchClient
namespace CommandLine

structure SearchArguments where
  words : List Text := []
  start : Option Int := none
  stop : Option Int := none
  filename : Option Text := none
  fileTypes : List Text := []
  deriving DecidableEq

/-- What the client is asked to do. -/
inductive Command where
  | search (arguments : SearchArguments)
  | summary
  | get (first : Int) (last : Option Int)
  | types
  deriving DecidableEq

structure Arguments where
  version : Bool := false
  verbose : Bool := false
  host : Option Text := none
  port : Option Int := none
  username : Option Text := none
  command : Option Command := none
  unknown : List Text := []
  deriving DecidableEq

/-! ## Values -/

def integer (argument value : Text) : Except Misuse Int :=
  match Numeral.read? value with
  | some n => .ok n
  | none => .error (.notAnInteger argument value)

def integer? (argument : Text) : Option Text → Except Misuse (Option Int)
  | some value => (integer argument value).map some
  | none => .ok none

/-- An argument that has to be one of several. -/
def choice (choices : List Text) (argument value : Text) : Except Misuse Text :=
  if choices.contains value then .ok value else .error (.notAChoice argument value choices)

/-- An option under its names, whose effect may tell them in messages. -/
def flagOf {σ : Type} (names : List String) (effect : Text → Effect σ) : Flag σ :=
  { names := names.map String.toList
    effect := effect (Flag.labelOf (names.map String.toList)) }

/-- The option that every part has. -/
def helpFlag {σ : Type} : Flag σ := flagOf ["-h", "--help"] fun _ => .help

def positionalMisuse {α : Type} (topic : Topic) : Except Misuse α → Except Stop α
  | .ok a => .ok a
  | .error misuse => .error (.misuse topic misuse)

/-! ## Commands -/

def searchGrammar : Grammar SearchArguments where
  topic := .search
  flags :=
    [ helpFlag
    , flagOf ["--start", "-s"] fun label => .value fun value args => do
        return { args with start := ← integer? label value }
    , flagOf ["--end", "-e"] fun label => .value fun value args => do
        return { args with stop := ← integer? label value }
    , flagOf ["--filename", "-f"] fun _ => .value fun value args =>
        .ok { args with filename := value }
    , flagOf ["--filetype", "-t"] fun label => .value fun value args =>
        match value with
        | some token => do
          let known ← choice FileKind.sortedTokens label token
          return { args with fileTypes := args.fileTypes ++ [known] }
        | none => .ok args ]
  positionals :=
    [ { name := "query".toList
        arity := .many
        take := fun words args => .ok { args with words } } ]

def summaryGrammar : Grammar Unit where
  topic := .summary
  flags := [helpFlag]
  positionals := []

def typesGrammar : Grammar Unit where
  topic := .types
  flags := [helpFlag]
  positionals := []

/-- First and last offset; the first is there once the grammar is satisfied. -/
structure GetArguments where
  first : Int := 0
  last : Option Int := none

def getGrammar : Grammar GetArguments where
  topic := .get
  flags := [helpFlag]
  positionals :=
    [ { name := "from_offset".toList
        arity := .one
        take := fun words args =>
          match words with
          | word :: _ => positionalMisuse .get do
            return { args with first := ← integer "from_offset".toList word }
          | [] => .ok args }
    , { name := "to_offset".toList
        arity := .optional
        take := fun words args =>
          match words with
          | word :: _ => positionalMisuse .get do
            return { args with last := some (← integer "to_offset".toList word) }
          | [] => .ok args } ]

/-! ## The program -/

def commandNames : List Text :=
  ["search".toList, "summary".toList, "get".toList, "types".toList]

/-- The command of a name, and the arguments that it does not take. -/
def readCommand (name : Text) (args : List Text) : Except Stop (Command × List Text) := do
  if name = "search".toList then
    let (values, unknown) ← searchGrammar.parse {} args
    return (.search values, unknown)
  else if name = "summary".toList then
    let (_, unknown) ← summaryGrammar.parse () args
    return (.summary, unknown)
  else if name = "get".toList then
    let (values, unknown) ← getGrammar.parse {} args
    return (.get values.first values.last, unknown)
  else
    let (_, unknown) ← typesGrammar.parse () args
    return (.types, unknown)

def programGrammar : Grammar Arguments where
  topic := .program
  flags :=
    [ helpFlag
    , flagOf ["--version", "-V"] fun _ => .switch fun args => { args with version := true }
    , flagOf ["--verbose", "-v"] fun _ => .switch fun args => { args with verbose := true }
    , flagOf ["--host"] fun _ => .value fun value args => .ok { args with host := value }
    , flagOf ["--port"] fun label => .value fun value args => do
        return { args with port := ← integer? label value }
    , flagOf ["--username", "-u"] fun _ => .value fun value args =>
        .ok { args with username := value } ]
  positionals :=
    [ { name := "command".toList
        arity := .rest
        take := fun words args =>
          match words with
          | [] => .ok args
          | word :: words => do
            let name ← positionalMisuse .program (choice commandNames "command".toList word)
            let (command, unknown) ← readCommand name words
            return { args with command := some command, unknown } } ]

namespace Arguments

def parse (args : List Text) : Except Stop Arguments := do
  let (values, unknown) ← programGrammar.parse {} args
  let unknown := unknown ++ values.unknown
  if unknown.isEmpty then return values
  else throw (.misuse .program (.unrecognized unknown))

end Arguments
end CommandLine
end SearchClient
