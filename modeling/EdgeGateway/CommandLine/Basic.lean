import EdgeGateway.Backlog.Journal
import EdgeGateway.Backlog.Location
import EdgeGateway.Backlog.Queues
import EdgeGateway.CommandLine.Gateway
import EdgeGateway.Settings.Load

/-!
# The commands

`classify` shows how a channel is read. `run` runs a gateway on lines of input. Each gives an exit
code and what is printed.
-/

namespace EdgeGateway.CommandLine

/-- How a command ends. -/
structure Ending where
  exitCode : UInt8
  printed : String
  deriving DecidableEq, Repr

/-- One line of a description: a label in a column of its own, and a value. -/
def labelled (label value : String) : String :=
  label ++ String.ofList (List.replicate (11 - label.length) ' ') ++ value ++ "\n"

/-- Shows how a channel is read. -/
def classify (channel : String) : Ending :=
  match Address.parse channel with
  | .error cause => { exitCode := 2, printed := cause.message ++ "\n" }
  | .ok address =>
    let key (label : String) (value : Option String) : String :=
      value.elim "" (labelled label)
    { exitCode := 0
      printed :=
        labelled "direction:" address.direction.token ++ labelled "kind:" address.kind.token
          ++ labelled "depth:" address.depth.name ++ key "gateway:" address.addressing.gateway
          ++ key "device:" address.addressing.device ++ labelled "reference:" address.reference }

/-- What is in the way of every journal of a system: the null device, the list of accounts, and the
views of processes and devices, in which nothing can be made. -/
def systemFiles : List String := ["/dev/null", "/etc/passwd", "/proc", "/sys"]

/-- The files that are there when a gateway starts: its own and those of the system. -/
def files (sources : Settings.Sources) : List String :=
  let settingsFile :=
    match sources.file with
    | some (.toml _) => ["config/default.toml"]
    | some (.json _) => ["config/default.json"]
    | none => []
  ".env" :: systemFiles ++ settingsFile

/-- What a gateway is started with: its router and where its backlog is kept. There is nothing if
the settings cannot be loaded, are not valid, or name a journal that cannot be opened. -/
def prepare? (sources : Settings.Sources) : Option (Router × Backend) := do
  let settings ← Settings.load? sources
  let .ok () := settings.validate | none
  guard (settings.backend = .memory ∨ Backlog.canOpen (files sources) settings.path)
  return ({ profile := settings.profile, manifests := settings.manifests }, settings.backend)

/-- Runs a gateway on lines of input, each with the time at which it is read. -/
def run (sources : Settings.Sources) (lines : List (UInt64 × String)) : Ending :=
  match prepare? sources with
  | none => { exitCode := 1, printed := "" }
  | some (router, .memory) =>
    let gateway : Gateway Queues := .start router
    { exitCode := 0, printed := gateway.transcript lines }
  | some (router, .durable) =>
    let gateway : Gateway Journal := .start router
    { exitCode := 0, printed := gateway.transcript lines }

end EdgeGateway.CommandLine
