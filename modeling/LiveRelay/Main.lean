/-
Module: LiveRelay.Main
Purpose: The program: it brings a relay up as its arguments, its environment and a configuration
  file ask for, shows the listeners, and stays until its input ends.
Main exports: main
-/
import LiveRelay.CommandLine

namespace LiveRelay.Program

open Text

/-- How the program is called. -/
def usage : String :=
  "Usage: stream-relay [OPTIONS]\n\n" ++
  "  -c, --config <FILE>            configuration file [env: RELAY_CONFIG]\n" ++
  "      --host <IP>                bind every listener to this address\n" ++
  "      --probe-interval-ms <MS>   time between two probes of a connection\n" ++
  "      --disconnect-slow          disconnect subscribers whose queue overflows\n" ++
  "      --reject-unknown-channels  refuse upgrades for unknown channels\n" ++
  "  -h, --help                     print this text\n" ++
  "  -V, --version                  print the version\n"

/-- What is shown of a listener. -/
def listenerText (config : RelayConfig) : Listener → String
  | .subscribe t address =>
    "subscribers of " ++ ((config.topics[t]?.map (·.name)).getD "") ++ " at " ++ address.toText
  | .ingest group => "sources at " ++ group.address.toText

/-- The text that reports why a relay cannot be bound. -/
def faultText : BindError → String
  | .invalid conflict => conflict.message
  | .unavailable address => "failed to bind " ++ address.toText
  | .unservable address => "the routes at " ++ address.toText ++ " cannot be served together"

/-- The variables of a block in which each one ends with a zero byte. -/
def variablesOf (block : List UInt8) : List (String × String) :=
  ((block.splitOn 0).filterMap textOfUtf8?).filterMap fun entry =>
    (cutFirst '=' entry.toList).map fun (name, value) => (String.ofList name, String.ofList value)

/-- The bytes of a file that can be read. -/
def bytesOf? (path : String) : IO (Option (List UInt8)) := do
  try return some (← IO.FS.readBinFile path).toList catch _ => return none

/-- Stay until the input ends. -/
partial def stay (input : IO.FS.Stream) : IO Unit := do
  let line ← input.getLine
  unless line.isEmpty do stay input

/-- Show what becomes of a call. -/
def report : Outcome → IO Unit
  | .detour .misuse => IO.eprint usage
  | .detour .help => IO.print usage
  | .detour .version => IO.println CommandLine.versionText
  | .unreadable => IO.eprintln "Error: configuration error"
  | .unbound fault => IO.eprintln ("Error: " ++ faultText fault)
  | .serving config listeners => do
    for listener in listeners do IO.println (listenerText config listener)
    stay (← IO.getStdin)

end LiveRelay.Program

open LiveRelay in
/-- Bring a relay up. The configuration file is read once its path is known. -/
def main (arguments : List String) : IO UInt32 := do
  let block ← Program.bytesOf? "/proc/self/environ"
  let environment := Program.variablesOf (block.getD [])
  let path :=
    match CommandLine.read arguments environment with
    | .ok options => options.config
    | .error _ => none
  let contents ← path.mapM Program.bytesOf?
  let outcome := CommandLine.execute .linked arguments environment fun _ => contents.join
  Program.report outcome
  return outcome.exitCode
