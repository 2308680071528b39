import EdgeGateway.Drain.Pass

/-!
# Running a pass

`Surroundings` are the gate and the sink that a pass meets. Both may keep a state of their own,
and a sink may change the outbox while it publishes. `Pass.run` takes a pass to its end.
-/

namespace EdgeGateway.Drain

/-- What a pass meets. `World` is the state of the gate and the sink. -/
structure Surroundings (Backlog : Type → Type) (World : Type) where
  /-- The answer of the gate. -/
  gate : Outbox Backlog → World → Bool × World
  /-- Whether the sink accepts a message, and what has changed when it has decided. -/
  publish : Message → Outbox Backlog → World → Bool × Outbox Backlog × World

/-- Everything that a running pass changes. -/
structure Running (Backlog : Type → Type) (World : Type) where
  outbox : Outbox Backlog
  world : World
  pass : Pass

variable {Backlog : Type → Type} [Store Backlog] {World : Type}

namespace Running

/-- One step, answered by the surroundings. -/
def advance (profile : Profile) (surroundings : Surroundings Backlog World)
    (running : Running Backlog World) : Running Backlog World :=
  let (answer, outbox, world) :=
    match running.pass.stage with
    | .ask _ _ _ =>
      let (answer, world) := surroundings.gate running.outbox running.world
      (answer, running.outbox, world)
    | .publish _ _ _ _ message => surroundings.publish message running.outbox running.world
    | _ => (false, running.outbox, running.world)
  let (outbox, pass) := running.pass.step profile answer outbox
  { outbox, world, pass }

/-- As many steps as it takes to finish, at most `fuel`. -/
def finish (profile : Profile) (surroundings : Surroundings Backlog World) :
    (fuel : Nat) → Running Backlog World → Running Backlog World
  | 0, running => running
  | fuel + 1, running =>
    if running.pass.isFinished then running
    else finish profile surroundings fuel (running.advance profile surroundings)

end Running

/-- A number of steps within which a pass finishes, if at most `arrivals` values are put while it
runs. Each lane is entered once. Each round of a key either removes an entry or is the last one
of its key, a key has an entry when its lane is entered, and a round has four steps. -/
def stepBound (outbox : Outbox Backlog) (arrivals : Nat) : Nat :=
  8 * (outbox.size + arrivals) + 8

/-- Drains some lanes. At most `arrivals` values are put by the sink while it publishes. -/
def run (profile : Profile) (surroundings : Surroundings Backlog World) (lanes : List Lane)
    (arrivals : Nat) (outbox : Outbox Backlog) (world : World) :
    Report × Outbox Backlog × World :=
  let finished :=
    Running.finish profile surroundings (stepBound outbox arrivals)
      { outbox, world, pass := { lanes } }
  (finished.pass.report, finished.outbox, finished.world)

end EdgeGateway.Drain
