import EdgeGateway.CommandLine.Basic
import Std.Time.DateTime.Timestamp

/-!
# The program

`run` takes input line by line and prints what leaves the gateway as it goes; `classify` prints how
a channel is read. Everything but reading and printing is done by `EdgeGateway.CommandLine`.
-/

namespace EdgeGateway.CommandLine

/-- The text of a file, if it can be read. -/
def readFile? (path : String) : IO (Option String) := do
  try
    return some (← IO.FS.readFile path)
  catch _ => return none

/-- The variables that settings may come from. -/
def variableNames : List String :=
  ["GWROUTE__GATEWAY__KEY", "GWROUTE__PUBLISHER__BATCH_SIZE", "GWROUTE__PERSISTENCE__BACKEND",
    "GWROUTE__PERSISTENCE__PATH", "GWROUTE__LOGGING__LEVEL"]

/-- The settings file, its name decided by its format. -/
def readSettingsFile : IO (Option Settings.File) := do
  match ← readFile? "config/default.toml" with
  | some text => return some (.toml text)
  | none => return (← readFile? "config/default.json").map .json

/-- Everything that settings are loaded from. -/
def readSources : IO Settings.Sources := do
  let mut environment := []
  for name in variableNames do
    if let some value ← IO.getEnv name then environment := environment ++ [(name, value)]
  return {
    file := ← readSettingsFile
    environmentFile := (← readFile? ".env").getD ""
    environment }

/-- The time in milliseconds. -/
def now : IO UInt64 := do
  let timestamp ← Std.Time.Timestamp.now
  return UInt64.ofNat timestamp.toMillisecondsSinceUnixEpoch.val.toNat

/-- Feeds the lines of the input to a gateway, printing what it writes. -/
partial def feed {Backlog : Type → Type} [Store Backlog] (input output : IO.FS.Stream)
    (gateway : Gateway Backlog) : IO Unit := do
  let line ← input.getLine
  let time ← now
  let ended := line.isEmpty
  let gateway := if ended then gateway.finish else gateway.takeLine time line
  output.putStr gateway.writer.written
  output.flush
  if !ended then feed input output { gateway with writer := {} }

/-- Runs a gateway on the standard input. -/
def runConsole : IO UInt32 := do
  let input ← IO.getStdin
  let output ← IO.getStdout
  match prepare? (← readSources) with
  | none => return 1
  | some (router, .memory) =>
    feed input output (Gateway.start router : Gateway Queues)
    return 0
  | some (router, .durable) =>
    feed input output (Gateway.start router : Gateway Journal)
    return 0

/-- Prints how a command ends. -/
def printEnding (ending : Ending) : IO UInt32 := do
  IO.print ending.printed
  return ending.exitCode.toUInt32

end EdgeGateway.CommandLine

/-- The program. -/
def main (arguments : List String) : IO UInt32 := do
  match arguments with
  | ["run"] => EdgeGateway.CommandLine.runConsole
  | ["classify", channel] | ["classify", "--", channel] =>
    EdgeGateway.CommandLine.printEnding (EdgeGateway.CommandLine.classify channel)
  | _ =>
    IO.eprintln "usage: run | classify CHANNEL"
    return 2
