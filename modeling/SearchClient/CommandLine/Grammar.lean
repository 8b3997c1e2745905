import SearchClient.CommandLine.Misuse
import SearchClient.Number.Digit

/-!
# Argument grammars

A grammar says which options and positional arguments a part of the command line takes, and what
each of them does to the values collected so far.

1. `Grammar.classify` tells words, options and the separator `--` apart: an option may be cut to
   an unambiguous beginning, carry its value after an equals sign, or, with a single dash, right
   behind its letter; a negative number and a text with a space are words, and so is all that
   follows the separator.
2. `Grammar.usesOf` resolves an option and the letters clustered behind it.
3. `Grammar.parse` goes through the arguments: positionals are filled greedily from each run of
   words, and what nothing takes is left over. A separator never counts as a value: an option
   that has one attached goes without a value.
-/

namespace SearchClient
namespace CommandLine

/-! ## Grammars -/

/-- What an option does to values of type `σ`. -/
inductive Effect (σ : Type) where
  /-- Prints the help. -/
  | help
  /-- Sets something. -/
  | switch (set : σ → σ)
  /-- Takes a value, which may be left out by a separator in its place. -/
  | value (take : Option Text → σ → Except Misuse σ)

/-- An option under its names. -/
structure Flag (σ : Type) where
  names : List Text
  effect : Effect σ

/-- What an option is called in messages: all its names. -/
def Flag.labelOf (names : List Text) : Text := ['/'].intercalate names

def Flag.label {σ : Type} (flag : Flag σ) : Text := labelOf flag.names

/-- How many words a positional argument takes. -/
inductive Arity where
  | one
  | optional
  | many
  /-- One word and all that follows it. -/
  | rest
  deriving DecidableEq

structure Positional (σ : Type) where
  name : Text
  arity : Arity
  take : List Text → σ → Except Stop σ

/-- The arguments of one part of the command line. -/
structure Grammar (σ : Type) where
  topic : Topic
  flags : List (Flag σ)
  positionals : List (Positional σ)

variable {σ : Type}

/-! ## Kinds of arguments -/

/-- What an argument is. Text may be attached to the name of an option, after an equals sign or
right behind its letter. -/
inductive Kind (σ : Type) where
  | word
  | separator
  | flag (flag : Flag σ) (name : Text) (attached : Option Text)
  | unknownFlag

def Kind.isFlag : Kind σ → Bool
  | flag .. => true
  | unknownFlag => true
  | _ => false

abbrev Argument (σ : Type) := Text × Kind σ

/-- Ends the options. -/
def separator : Text := ['-', '-']

def allDigits (s : Text) : Bool := s.all fun c => (Digit.value? c).isSome

/-- Whether an argument is a negative number: a minus and digits, perhaps with a point before
the last of them. A last line feed does not matter. -/
def isNegativeNumber (arg : Text) : Bool :=
  match arg with
  | '-' :: s =>
    let s := if s.getLast? = some '\n' then s.dropLast else s
    let whole := s.takeWhile (· != '.')
    match s.dropWhile (· != '.') with
    | [] => !whole.isEmpty && allDigits whole
    | _ :: fraction => allDigits whole && !fraction.isEmpty && allDigits fraction
  | _ => false

namespace Grammar

/-- Every name of an option, in the order of declaration. -/
def names (g : Grammar σ) : List (Text × Flag σ) :=
  g.flags.flatMap fun flag => flag.names.map fun name => (name, flag)

def find? (g : Grammar σ) (name : Text) : Option (Flag σ) :=
  (g.names.find? fun (known, _) => known == name).map Prod.snd

/-- An argument's text before the first equals sign, and the value after it. -/
def splitValue (arg : Text) : Text × Option Text :=
  match Text.cut? ['='] arg with
  | some (name, value) => (name, some value)
  | none => (arg, none)

/-- The options that an argument may stand for without being the name of one. -/
def candidates (g : Grammar σ) (arg : Text) : List (Text × Flag σ × Option Text) :=
  match arg with
  | '-' :: '-' :: _ =>
    let (start, attached) := splitValue arg
    g.names.filterMap fun (name, flag) =>
      if start.isPrefixOf name then some (name, flag, attached) else none
  | '-' :: letter :: text =>
    g.names.filterMap fun (name, flag) =>
      if name = ['-', letter] then some (name, flag, some text)
      else if arg.isPrefixOf name then some (name, flag, none)
      else none
  | _ => []

/-- The kind of an argument that starts with a dash and is no name of an option. -/
def kindOfOther (g : Grammar σ) (arg : Text) : Except Misuse (Kind σ) :=
  match g.candidates arg with
  | [] => .ok (if isNegativeNumber arg || arg.contains ' ' then .word else .unknownFlag)
  | [(name, flag, value)] => .ok (.flag flag name value)
  | several => .error (.ambiguous arg (several.map Prod.fst))

/-- The kind of an argument before the separator. -/
def kindOf (g : Grammar σ) (arg : Text) : Except Misuse (Kind σ) :=
  match arg with
  | '-' :: _ :: _ =>
    match g.find? arg with
    | some flag => .ok (.flag flag arg none)
    | none =>
      let (name, attached) := splitValue arg
      match attached, g.find? name with
      | some _, some flag => .ok (.flag flag name attached)
      | _, _ => g.kindOfOther arg
  | _ => .ok .word

def classify (g : Grammar σ) : List Text → Except Misuse (List (Argument σ))
  | [] => .ok []
  | arg :: args =>
    if arg = separator then .ok ((arg, .separator) :: args.map fun word => (word, .word))
    else do
      let kind ← g.kindOf arg
      return (arg, kind) :: (← g.classify args)

/-! ## Options -/

/-- An option and its value, empty if it takes none. -/
abbrev Use (σ : Type) := Flag σ × Text

/-- What an option argument comes to: the options used, and how many of the words after it they
take. -/
structure Resolved (σ : Type) where
  uses : List (Use σ)
  taken : Nat := 0

/-- Whether letters can be clustered behind a name. -/
def isShort (name : Text) : Bool := name.length == 2

/-- The use of an option with nothing attached, while `next` is the word after it. -/
def useAlone (next : Option Text) (flag : Flag σ) : Except Misuse (Resolved σ) :=
  match flag.effect, next with
  | .value _, some word => .ok { uses := [(flag, word)], taken := 1 }
  | .value _, none => .error (.valueMissing flag.label)
  | _, _ => .ok { uses := [(flag, [])] }

/-- The uses of an option with text attached to its name: its value, or, if it takes none, a
cluster of more letters. -/
def useWith (g : Grammar σ) (next : Option Text) (flag : Flag σ) (name : Text) :
    Text → Except Misuse (Resolved σ)
  | [] =>
    match flag.effect with
    | .value _ => .ok { uses := [(flag, [])] }
    | _ => .error (.valueUnwanted flag.label [])
  | letter :: text =>
    match flag.effect with
    | .value _ => .ok { uses := [(flag, letter :: text)] }
    | _ =>
      -- only a letter that is an option itself may follow
      match g.find? ['-', letter] with
      | some other =>
        if isShort name then do
          let more ←
            if text.isEmpty then useAlone next other else g.useWith next other ['-', letter] text
          return { more with uses := (flag, []) :: more.uses }
        else .error (.valueUnwanted flag.label (letter :: text))
      | none => .error (.valueUnwanted flag.label (letter :: text))

/-- The uses of an option with what is attached to it. -/
def usesOf (g : Grammar σ) (next : Option Text) (flag : Flag σ) (name : Text) :
    Option Text → Except Misuse (Resolved σ)
  | none => useAlone next flag
  | some text => g.useWith next flag name text

def applyUse (g : Grammar σ) (values : σ) (use : Use σ) : Except Stop σ :=
  match use.1.effect with
  | .help => .error (.help g.topic)
  | .switch set => .ok (set values)
  | .value take =>
    match take (if use.2 = separator then none else some use.2) values with
    | .ok after => .ok after
    | .error misuse => .error (.misuse g.topic misuse)

/-! ## Positional arguments -/

def isSeparator (arg : Argument σ) : Bool :=
  match arg.2 with
  | .separator => true
  | _ => false

/-- The texts that a positional takes from the start of arguments, and what it leaves. The
separator goes with the words beside it. -/
def take? (arity : Arity) (args : List (Argument σ)) :
    Option (List Text × List (Argument σ)) :=
  let lead := args.takeWhile isSeparator
  let body := args.dropWhile isSeparator
  match arity, body with
  | .many, _ =>
    some ((args.takeWhile fun arg => !arg.2.isFlag).map Prod.fst,
      args.dropWhile fun arg => !arg.2.isFlag)
  | .rest, (_, .word) :: _ => some (args.map Prod.fst, [])
  | .rest, _ => none
  | .one, (word, .word) :: after =>
    some (lead.map Prod.fst ++ word :: (after.takeWhile isSeparator).map Prod.fst,
      after.dropWhile isSeparator)
  | .one, _ => none
  | .optional, (word, .word) :: after =>
    some (lead.map Prod.fst ++ word :: (after.takeWhile isSeparator).map Prod.fst,
      after.dropWhile isSeparator)
  | .optional, _ => some (lead.map Prod.fst, body)

/-- Fills positionals from the start of arguments, as many as can be: the values, the positionals
still open and the arguments left. -/
def fill (values : σ) (slots : List (Positional σ)) (args : List (Argument σ)) :
    Except Stop (σ × List (Positional σ) × List (Argument σ)) :=
  match slots with
  | [] => .ok (values, [], args)
  | p :: later =>
    match take? p.arity args with
    | none => .ok (values, p :: later, args)
    | some (taken, left) => do
      -- the first separator is no value, except before a command
      let words := if p.arity = .rest then taken else taken.erase separator
      let after ← p.take words values
      fill after later left

/-! ## Parsing -/

/-- What has been read so far: the values, the positionals still open, and the arguments that
nothing takes. -/
structure Progress (σ : Type) where
  values : σ
  pending : List (Positional σ)
  unknown : List Text := []

def parseFrom (g : Grammar σ) (progress : Progress σ) (args : List (Argument σ)) :
    Except Stop (Progress σ) :=
  match args with
  | [] => do
    let (values, pending, _) ← fill progress.values progress.pending []
    return { progress with values, pending }
  | (arg, kind) :: rest =>
    match kind with
    | .unknownFlag => g.parseFrom { progress with unknown := progress.unknown ++ [arg] } rest
    | .flag flag name attached => do
      let next :=
        match rest with
        | (word, .word) :: _ => some word
        | _ => none
      match g.usesOf next flag name attached with
      | .error misuse => throw (.misuse g.topic misuse)
      | .ok resolved =>
        let values ← resolved.uses.foldlM g.applyUse progress.values
        g.parseFrom { progress with values } (rest.drop resolved.taken)
    | _ => do
      let (values, pending, left) ←
        fill progress.values progress.pending ((arg, kind) :: rest)
      -- words that no positional takes are left over, up to the next option
      if left.length < rest.length + 1 then g.parseFrom { progress with values, pending } left
      else
        g.parseFrom { progress with
            values, pending
            unknown := progress.unknown ++ arg :: (rest.takeWhile fun a => !a.2.isFlag).map Prod.fst }
          (rest.dropWhile fun a => !a.2.isFlag)
termination_by args.length
decreasing_by
  · simp
  · simp only [List.length_drop, List.length_cons]
    omega
  · simp only [List.length_cons]
    omega
  · have := (List.dropWhile_suffix (l := rest) fun a => !a.2.isFlag).length_le
    simp only [List.length_cons]
    omega

/-- The values of arguments and the arguments that nothing takes. -/
def parse (g : Grammar σ) (initial : σ) (args : List Text) : Except Stop (σ × List Text) := do
  match g.classify args with
  | .error misuse => throw (.misuse g.topic misuse)
  | .ok classified =>
    let progress ← g.parseFrom { values := initial, pending := g.positionals } classified
    let absent := progress.pending.filter fun p => p.arity == .one
    if absent.isEmpty then return (progress.values, progress.unknown)
    else throw (.misuse g.topic (.missing (absent.map Positional.name)))

end Grammar
end CommandLine
end SearchClient
