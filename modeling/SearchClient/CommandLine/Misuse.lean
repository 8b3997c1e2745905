import SearchClient.CommandLine.Topic
import SearchClient.Text.Quoted

/-!
# Misuse of the command line

What can be wrong with arguments, and how it is told. A part of the command line stops either to
print its help or because of a misuse.
-/

namespace SearchClient
namespace CommandLine

/-- What is wrong with arguments. -/
inductive Misuse where
  | notAnInteger (argument value : Text)
  | notAChoice (argument value : Text) (choices : List Text)
  | valueMissing (argument : Text)
  | valueUnwanted (argument value : Text)
  | ambiguous (argument : Text) (candidates : List Text)
  | missing (arguments : List Text)
  | unrecognized (arguments : List Text)
  deriving DecidableEq

namespace Misuse

def listed (texts : List Text) : Text := [',', ' '].intercalate texts

/-- What is said about one argument. -/
def about (argument : Text) (complaint : Text) : Text :=
  "argument ".toList ++ argument ++ ": ".toList ++ complaint

def message : Misuse → Text
  | notAnInteger argument value =>
    about argument ("invalid int value: ".toList ++ Quoted.encode value)
  | notAChoice argument value choices =>
    about argument ("invalid choice: ".toList ++ Quoted.encode value ++ " (choose from ".toList ++
      listed (choices.map Quoted.encode) ++ [')'])
  | valueMissing argument => about argument "expected one argument".toList
  | valueUnwanted argument value =>
    about argument ("ignored explicit argument ".toList ++ Quoted.encode value)
  | ambiguous argument candidates =>
    "ambiguous option: ".toList ++ argument ++ " could match ".toList ++ listed candidates
  | missing arguments => "the following arguments are required: ".toList ++ listed arguments
  | unrecognized arguments =>
    "unrecognized arguments: ".toList ++ [' '].intercalate arguments

end Misuse

/-- Why the reading of arguments stops before its end. -/
inductive Stop where
  | help (topic : Topic)
  | misuse (topic : Topic) (misuse : Misuse)
  deriving DecidableEq

/-- What is printed about a misuse: how the part is called, and what is wrong. -/
def misuseReport (topic : Topic) (misuse : Misuse) : Text :=
  topic.usage ++ topic.name ++ ": error: ".toList ++ misuse.message ++ ['\n']

end CommandLine
end SearchClient
