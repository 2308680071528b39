import EdgeGateway.Outbox.Basic
import EdgeGateway.Router.Decision

/-!
# Scripted sinks

A rehearsal replaces the sinks of a gateway by scripted ones. A scripted sink counts the attempts
to publish, may change the outbox in the middle of one, and refuses by fixed rules: everything,
channels with a given ending, or whatever exceeds a budget.
-/

namespace EdgeGateway.Rehearsal

/-- A change of the outbox while a sink is publishing. -/
inductive Intervention where
  | put (lane : Lane) (key : String) (value : lane.Value)
  | remove (lane : Lane) (key : String) (limit : Nat)
  | setConnected (connected : Bool)

/-- The outbox after an intervention. -/
def Intervention.apply {Backlog : Type → Type} [Store Backlog] (outbox : Outbox Backlog) :
    Intervention → Outbox Backlog
  | put lane key value => outbox.put lane key value
  | remove lane key limit => outbox.remove lane key limit
  | setConnected connected => outbox.setConnected connected

/-- What a scripted sink does. -/
structure Rules where
  /-- Refuse everything. -/
  refuse : Bool := false
  /-- Refuse channels with this ending. -/
  refuseEnding : Option String := none
  /-- Accept at most so many messages. -/
  budget : Option Nat := none
  /-- The interventions during some attempts, which count from one. -/
  during : List (Nat × List Intervention) := []

/-- Everything that the rules do to the outbox during an attempt. -/
def Rules.interventions (rules : Rules) (attempt : Nat) : List Intervention :=
  (rules.during.filter (·.1 = attempt)).flatMap Prod.snd

/-- How many interventions the rules hold. -/
def Rules.size (rules : Rules) : Nat :=
  rules.during.foldl (fun total row => total + row.2.length) 0

/-- Whether the rules refuse a message. -/
def Rules.refuses (rules : Rules) (message : Message) : Bool :=
  rules.refuse
    || rules.refuseEnding.any (fun ending => ending.toList.isSuffixOf message.channel.toList)
    || rules.budget = some 0

/-- A sink that follows rules and remembers what it accepted. -/
structure Sink where
  rules : Rules := {}
  /-- How often publishing was attempted under these rules. -/
  attempts : Nat := 0
  accepted : List Message := []

/-- Decides about a message, after the interventions of the attempt. -/
def Sink.publish {Backlog : Type → Type} [Store Backlog] (message : Message)
    (outbox : Outbox Backlog) (sink : Sink) : Bool × Outbox Backlog × Sink :=
  let attempts := sink.attempts + 1
  let outbox := (sink.rules.interventions attempts).foldl Intervention.apply outbox
  if sink.rules.refuses message then (false, outbox, { sink with attempts })
  else
    let rules := { sink.rules with budget := sink.rules.budget.map (· - 1) }
    (true, outbox, { rules, attempts, accepted := sink.accepted ++ [message] })

/-- The sinks of both sides, and the commands that handlers were given. -/
structure Stage where
  platform : Sink := {}
  devices : Sink := {}
  calls : List Command := []

namespace Stage

/-- The sink of a side. -/
def sink (stage : Stage) : Side → Sink
  | .platform => stage.platform
  | .devices => stage.devices

/-- The stage with the sink of a side replaced. -/
def setSink (stage : Stage) (side : Side) (sink : Sink) : Stage :=
  match side with
  | .platform => { stage with platform := sink }
  | .devices => { stage with devices := sink }

/-- The sink of a side decides about a message. -/
def publish {Backlog : Type → Type} [Store Backlog] (side : Side) (message : Message)
    (outbox : Outbox Backlog) (stage : Stage) : Bool × Outbox Backlog × Stage :=
  let (accepted, outbox, sink) := (stage.sink side).publish message outbox
  (accepted, outbox, stage.setSink side sink)

/-- A handler is given a command. -/
def handle (command : Command) (stage : Stage) : Stage :=
  { stage with calls := stage.calls ++ [command] }

/-- A bound for the interventions that are still to come. -/
def interventions (stage : Stage) : Nat := stage.platform.rules.size + stage.devices.rules.size

/-- The stage with nothing accepted and no calls, as a new step finds it. -/
def cleared (stage : Stage) : Stage where
  platform := { stage.platform with accepted := [] }
  devices := { stage.devices with accepted := [] }
  calls := []

end Stage

end EdgeGateway.Rehearsal
