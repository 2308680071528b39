import EdgeGateway.CommandLine.Input
import EdgeGateway.Console
import EdgeGateway.Router.Basic
import EdgeGateway.Worker

/-!
# A gateway on the command line

The gateway reads lines, carries out commands for its own actuators and configuration, and writes
what leaves it to two consoles that share one writer. Commands are queued when they are handled and
carried out later, each in a turn of its own; in between, a worker publishes what is pending.

The turns may come in any order. `settle` takes the one in which nothing waits longer than it has
to: after each line all commands are carried out and the worker runs until it is idle.
-/

namespace EdgeGateway.CommandLine

/-- A running gateway. -/
structure Gateway (Backlog : Type → Type) where
  router : Router
  outbox : Outbox Backlog
  worker : Worker := .waiting
  platform : Console := { name := "platform", connected := true }
  devices : Console := { name := "device", connected := true }
  writer : Writer := {}
  /-- Commands that were handled and wait to be carried out. -/
  commands : List Command := []
  /-- The values that the gateway's own actuators were set to. -/
  actuators : Table String String := .empty
  /-- The values that the gateway's own configuration items were set to. -/
  configuration : Table String (List String) := .empty

namespace Gateway

variable {Backlog : Type → Type} [Store Backlog]

/-- A gateway as it starts: its worker is started, and both consoles are connected. -/
def start (router : Router) : Gateway Backlog where
  router := { router with handlers := .all }
  outbox := (Outbox.fresh.start).setConnected true

/-- The console of a side. -/
def console (gateway : Gateway Backlog) : Side → Console
  | .platform => gateway.platform
  | .devices => gateway.devices

/-- Routes a message. Commands for the gateway itself are queued. -/
def route (message : Message) (gateway : Gateway Backlog) : Gateway Backlog :=
  let callees : Callees (Writer × List Command) :=
    { publish := fun side message (writer, commands) =>
        let (accepted, writer) := (gateway.console side).publish message writer
        (accepted, writer, commands)
      handle := fun command (writer, commands) => (writer, commands ++ [command]) }
  let (_, writer, commands) :=
    gateway.router.route callees message (gateway.writer, gateway.commands)
  { gateway with writer, commands }

/-- Adds a value to the outbox. -/
def add (lane : Lane) (value : lane.Value) (gateway : Gateway Backlog) : Gateway Backlog :=
  { gateway with outbox := gateway.outbox.add lane value }

/-- Takes a line in, at a time given in milliseconds. A line that cannot be read is passed over. -/
def readLine (time : UInt64) (line : String) (gateway : Gateway Backlog) : Gateway Backlog :=
  match Input.ofLine? line with
  | none => gateway
  | some (.message message) => gateway.route message
  | some (.reading reference value) =>
    gateway.add .readings { reference, values := [value], timestamp := time }
  | some (.alarm reference active) =>
    gateway.add .alarms { reference, active, timestamp := time }

/-- Carries out a command. Setting reports the new value; asking for an actuator that was never
set reports an error, and asking for a configuration item that was never set reports nothing. -/
def apply (gateway : Gateway Backlog) : Command → Gateway Backlog
  | .setActuator reference value =>
    let gateway := gateway.add .statuses { reference, value, state := .ready }
    { gateway with actuators := gateway.actuators.insert reference value }
  | .getActuator reference =>
    match gateway.actuators.find? reference with
    | some value => gateway.add .statuses { reference, value, state := .ready }
    | none => gateway.add .statuses { reference, value := "", state := .error }
  | .setConfiguration item =>
    let gateway := gateway.add .configurations item
    { gateway with configuration := gateway.configuration.insert item.key item.values }
  | .getConfiguration reference =>
    match gateway.configuration.find? reference with
    | some values => gateway.add .configurations { key := reference, values }
    | none => gateway

/-- Carries out the first queued command, if there is one. -/
def applyNext (gateway : Gateway Backlog) : Gateway Backlog :=
  match gateway.commands with
  | [] => gateway
  | command :: commands => { gateway with commands }.apply command

/-- Carries out all queued commands in their order. -/
def applyAll (gateway : Gateway Backlog) : Gateway Backlog :=
  gateway.commands.foldl apply { gateway with commands := [] }

/-- How a console answers a drain: it changes nothing but the writer. -/
def publishTo (console : Console) (message : Message) (outbox : Outbox Backlog) (writer : Writer) :
    Bool × Outbox Backlog × Writer :=
  let (accepted, writer) := console.publish message writer
  (accepted, outbox, writer)

/-- Lets the worker run until it is idle. -/
def work (gateway : Gateway Backlog) : Gateway Backlog :=
  let (worker, outbox, writer) :=
    gateway.worker.settle gateway.router.profile (publishTo gateway.platform) 0 gateway.outbox
      gateway.writer
  { gateway with worker, outbox, writer }

/-- Takes a line in and does everything that follows from it. -/
def takeLine (time : UInt64) (line : String) (gateway : Gateway Backlog) : Gateway Backlog :=
  (gateway.readLine time line).applyAll.work

/-- Publishes everything pending, once the input has ended and no command is queued any more. -/
def finish (gateway : Gateway Backlog) : Gateway Backlog :=
  let gateway := gateway.applyAll.work
  let surroundings : Drain.Surroundings Backlog Writer :=
    { gate := fun _ writer => (true, writer), publish := publishTo gateway.platform }
  let (_, outbox, writer) :=
    Drain.run gateway.router.profile surroundings Lane.drainOrder 0 gateway.outbox gateway.writer
  { gateway with outbox, writer }

/-- Everything that a gateway writes for some lines, each with the time at which it is read. -/
def transcript (gateway : Gateway Backlog) (lines : List (UInt64 × String)) : String :=
  let fed := lines.foldl (fun gateway (time, line) => gateway.takeLine time line) gateway
  fed.finish.writer.written

end Gateway

end EdgeGateway.CommandLine
