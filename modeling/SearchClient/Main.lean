import SearchClient.CommandLine.Run

/-!
# The program

The outer layer of the command line. It has no connection of its own: it runs the command line on
a recorded conversation, and standard input holds all that the daemon said in it. The report goes
to standard output, complaints and prompts go to standard error.
-/

namespace SearchClient
namespace Program

/-- All octets of an input. -/
partial def readAll (input : IO.FS.Stream) (acc : Bytes) : IO Bytes := do
  let chunk ← input.read 65536
  if chunk.isEmpty then return acc
  else readAll input (acc ++ chunk.toList)

/-- The environment variables among the given ones that are set. -/
def environmentOf (names : List String) : IO Environment :=
  names.filterMapM fun name => do
    return (← IO.getEnv name).map fun value => (name.toList, value.toList)

/-- The variables that settings are made of. -/
def settingNames : List String :=
  [ "INDEX_CLIENT_HOST", "INDEX_CLIENT_PORT", "INDEX_CLIENT_USER", "INDEX_CLIENT_PASSWORD"
  , "INDEX_CLIENT_CONNECT_TIMEOUT", "INDEX_CLIENT_READ_TIMEOUT" ]

/-- The variables that may name the user, the first one that does wins. -/
def userNames : List String := ["LOGNAME", "USER", "LNAME", "USERNAME"]

end Program
end SearchClient

open SearchClient SearchClient.Program

/-- Runs the command line on what the process meets. -/
def main (args : List String) : IO UInt32 := do
  let users ← environmentOf userNames
  let said ← readAll (← IO.getStdin) []
  let outcome := CommandLine.run (args.map String.toList)
    { environment := ← environmentOf settingNames
      systemUser := CommandLine.firstGiven (users.map fun (_, user) => some user) []
      typedPassword := []
      network := { daemon := { turns := [{ octets := said, ending := .closed }] } } }
  for prompt in outcome.prompts do
    IO.eprintln (String.ofList prompt)
  IO.print (String.ofList outcome.output)
  match outcome.conclusion with
  | .exit status => return status.toUInt32
  | .refused status complaint =>
    IO.eprint (String.ofList complaint)
    return status.toUInt32
  | .failed failure =>
    IO.eprintln (String.ofList failure.message)
    return 1
